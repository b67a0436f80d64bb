import RequestLine.Execution
import RequestLine.Json
import RequestLine.Json.Writer

set_option autoImplicit false

namespace RequestLine.Envelope

abbrev Reported := Nat → Except Unwritable Json

def guarded (report : Nat → Except Unwritable Json) : Reported := fun depth =>
  if Json.maxWrittenDepth < depth then .error .tooDeep else report depth

def reportMember (depth : Nat) (m : Text × Reported) : Except Unwritable (Text × Json) :=
  if m.1.isEncodable then (m.2 depth).map fun v => (m.1, v) else .error .unencodableKey

def reported : Json.Algebra Reported where
  null := guarded fun _ => .ok .null
  bool b := guarded fun _ => .ok (.bool b)
  int n := guarded fun _ => .ok (.int n)
  float x := guarded fun _ => .ok (if x.isFinite then .float x else .null)
  str t := guarded fun _ => .ok (.str t)
  arr parts := guarded fun depth => (parts.mapM fun (part : Reported) => part (depth + 1)).map .arr
  obj parts := guarded fun depth => (parts.mapM (reportMember (depth + 1))).map .obj

def report (v : Json) : Except Unwritable Json := v.fold reported 1

/-- Each of the three bytes of a surrogate that stands alone counts as unreadable. -/
def readable (t : Text) : Text :=
  t.flatMap fun s => if s.isLone then List.replicate 3 (.char (Char.ofNat 0xFFFD)) else [s]

def reportMembers (members : Json.Members) : Except Unwritable Json := do
  let written ← members.mapM fun m => (report m.2).map fun v => (readable m.1, v)
  return .obj (Json.collect written)

def reportHeaders : Option Json.Members → Except Unwritable Json
  | none => .ok .null
  | some members => reportMembers members

def build (d : Descriptor) (e : Execution) : Except Unwritable Json := do
  let query ← reportMembers d.query
  let body ← report d.body
  let headers ← reportHeaders d.headers
  let data ← report e.reply.data
  return Json.record [
    ("request", Json.record [
      ("query", query), ("body", body), ("headers", headers), ("full_url", .str d.fullUrl)]),
    ("response", Json.record [
      ("http_status", .int e.reply.status),
      ("duration", .int e.timing.duration),
      ("request_start_timestamp", .int e.timing.start),
      ("request_stop_timestamp", .int e.timing.stop),
      ("response_data", data)])]

def short : Json.Algebra Bool where
  null := true
  bool _ := true
  int n := decide (n.natAbs < Nat.pow 10 Text.maxDigits)
  float _ := true
  str _ := true
  arr parts := parts.all id
  obj parts := parts.all (·.2)

def write (d : Descriptor) (e : Execution) : Except Unwritable Text := do
  let v ← build d e
  -- Depth and keys have been looked at by now, integers only when the text is made.
  if v.fold short then return v.write else throw .tooManyDigits

def failed (message : Text) : Json :=
  Json.record [("error", .bool true), ("message", .str message)]

end RequestLine.Envelope
