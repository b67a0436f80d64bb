import RequestLine.Double.Shortest
import RequestLine.Json
import RequestLine.Text.Hex

set_option autoImplicit false

namespace RequestLine.Query

inductive Fault where
  | unencodable
  | tooManyDigits
  | notFinite (reason : Double.NotFinite)
  deriving DecidableEq, Repr

def isUnreserved (b : UInt8) : Bool :=
  (0x30 ≤ b && b ≤ 0x39) || (0x41 ≤ b && b ≤ 0x5A) || (0x61 ≤ b && b ≤ 0x7A) ||
    [0x5F, 0x2E, 0x2D, 0x7E, 0x21, 0x2A, 0x27, 0x28, 0x29].contains b

def escapeByte (b : UInt8) : Text :=
  if isUnreserved b then [.char (Char.ofNat b.toNat)] else .char '%' :: Hex.upper 2 b.toNat

def escape (t : Text) : Except Fault Text :=
  match t.utf8? with
  | some bytes => .ok (bytes.data.toList.flatMap escapeByte)
  | none => .error .unencodable

def decimal (n : Int) : Except Fault Text :=
  if n.natAbs < Nat.pow 10 Text.maxDigits then .ok (Text.ofInt n) else .error .tooManyDigits

def double (x : Double) : Except Fault Text :=
  if x.isInteger then
    match x.truncate with
    | .ok n => decimal n
    | .error reason => .error (.notFinite reason)
  else .ok (x.text Double.plainNames)

def scalar : Json → Except Fault Text
  | .null | .arr _ | .obj _ => .ok []
  | .bool b => .ok (Text.ofString (if b then "true" else "false"))
  | .int n => decimal n
  | .float x => double x
  | .str t => .ok t

/-- `key` is already escaped. -/
def pair (key : Text) (v : Json) : Except Fault Text := do
  let value ← escape (← scalar v)
  return key ++ (Symbol.char '=' :: value)

def pairs (member : Text × Json) : Except Fault (List Text) := do
  let key ← escape member.1
  match member.2 with
  | .arr elements => elements.mapM (pair key)
  | v => return [← pair key v]

def encode (params : Json.Members) : Except Fault Text := do
  let written ← params.mapM pairs
  return Text.join "&" written.flatten

def extend (url : Text) (params : Json.Members) : Except Fault Text :=
  if params.isEmpty then .ok url
  else (encode params).map fun query => url ++ (Symbol.char '?' :: query)

end RequestLine.Query
