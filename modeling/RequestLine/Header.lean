import RequestLine.Double.Shortest
import RequestLine.Json
import RequestLine.Runtime
import RequestLine.Text.Printable

set_option autoImplicit false

namespace RequestLine.Header

def display : Json.Algebra Text where
  null := "None"
  bool b := if b then "True" else "False"
  int := Text.ofInt
  float := Double.text Double.plainNames
  str := Text.quoted
  arr parts := .char '[' :: (Text.join ", " parts ++ [.char ']'])
  obj parts :=
    let members := parts.map fun m => m.1.quoted ++ Text.ofString ": " ++ m.2
    .char '\x7b' :: (Text.join ", " members ++ [.char '\x7d'])

def text : Json → Text
  | .str t => t
  | v => v.fold display

def prepare (headers : Option Json.Members) : Option (List (Text × Text)) :=
  headers.map fun members => members.map fun m => (m.1, text m.2)

inductive Fault where
  | tooDeep
  | tooManyDigits
  deriving DecidableEq, Repr

section

variable [Runtime]

def within (check : Nat → Except Fault Unit) (depth : Nat) : Except Fault Unit :=
  if Runtime.display < depth then .error .tooDeep else check depth

/-- The first thing that keeps a value, so many levels down, from being displayed. -/
def obstacle : Json.Algebra (Nat → Except Fault Unit) where
  null := within fun _ => .ok ()
  bool _ := within fun _ => .ok ()
  int n := within fun _ =>
    if n.natAbs < Nat.pow 10 Text.maxDigits then .ok () else .error .tooManyDigits
  float _ := within fun _ => .ok ()
  str _ := within fun _ => .ok ()
  arr parts := within fun depth => parts.forM fun part => part (depth + 1)
  obj parts := within fun depth => parts.forM fun m => m.2 (depth + 1)

def check : Json → Except Fault Unit
  | .str _ => .ok ()
  | v => v.fold obstacle 1

/-- The headers as they are sent, unless a value in them cannot be displayed. -/
def tryPrepare (headers : Option Json.Members) : Except Fault (Option (List (Text × Text))) := do
  (headers.getD []).forM fun m => check m.2
  return prepare headers

end

end RequestLine.Header
