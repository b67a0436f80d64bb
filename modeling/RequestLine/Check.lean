import RequestLine.Json
import RequestLine.Spelling

set_option autoImplicit false

namespace RequestLine

inductive Flaw where
  | missing
  | notInteger
  | integerSpelling
  | integerSize
  | fraction
  | notFinite
  | tooSmall
  | tooLarge
  | notNumber
  | numberSpelling
  | notString
  | notUnicode
  | tooShort
  | notBoolean
  | booleanSpelling
  | notChoice
  | notObject
  | notRecord
  | frozen
  deriving DecidableEq, Repr

namespace Flaw

def code : Flaw → String
  | .missing => "missing"
  | .notInteger => "int_type"
  | .integerSpelling => "int_parsing"
  | .integerSize => "int_parsing_size"
  | .fraction => "int_from_float"
  | .notFinite => "finite_number"
  | .tooSmall => "greater_than_equal"
  | .tooLarge => "less_than_equal"
  | .notNumber => "float_type"
  | .numberSpelling => "float_parsing"
  | .notString => "string_type"
  | .notUnicode => "string_unicode"
  | .tooShort => "string_too_short"
  | .notBoolean => "bool_type"
  | .booleanSpelling => "bool_parsing"
  | .notChoice => "enum"
  | .notObject => "dict_type"
  | .notRecord => "model_type"
  | .frozen => "frozen_instance"

end Flaw

structure Issue where
  path : List Text
  flaw : Flaw
  deriving DecidableEq, Repr

namespace Issue

def location (i : Issue) : Text := Text.join "." i.path

def within (name : Text) (i : Issue) : Issue := ⟨name :: i.path, i.flaw⟩

end Issue

def Checked (α : Type) : Type := Except (List Issue) α

namespace Checked

def error {α : Type} (issues : List Issue) : Checked α := Except.error issues

def ok {α : Type} (a : α) : Checked α := Except.ok a

def apply {α β : Type} : Checked (α → β) → Checked α → Checked β
  | .ok f, .ok a => ok (f a)
  | .ok _, .error issues => error issues
  | .error issues, .ok _ => error issues
  | .error issues, .error more => error (issues ++ more)

instance : Applicative Checked where
  pure := ok
  seq f a := apply f (a ())

def named {α : Type} (name : Text) : Except Flaw α → Checked α
  | .ok a => ok a
  | .error flaw => error [⟨[name], flaw⟩]

end Checked

namespace Check

def spelling (t : Text) : Except Flaw Text :=
  if t.isEncodable then .ok t else .error .notUnicode

def integerText (t : Text) : Except Flaw Int :=
  match Spelling.integer t with
  | .ok n => .ok n
  | .error .malformed => .error .integerSpelling
  | .error .tooLong => .error .integerSize

def integerDouble (x : Double) : Except Flaw Int :=
  match x.truncate with
  | .error _ => .error .notFinite
  | .ok n =>
    if !x.isInteger then .error .fraction
    else if n.natAbs < 1 <<< 63 then .ok n
    else .error .integerSize

def integer : Json → Except Flaw Int
  | .int n => .ok n
  | .bool b => .ok (if b then 1 else 0)
  | .float x => integerDouble x
  | .str t => spelling t >>= integerText
  | _ => .error .notInteger

def between (low high : Option Int) (n : Int) : Except Flaw Int :=
  if low.any (n < ·) then .error .tooSmall
  else if high.any (· < n) then .error .tooLarge
  else .ok n

def numberText (t : Text) : Except Flaw Double :=
  match Spelling.double? t with
  | some x => .ok x
  | none => .error .numberSpelling

def number : Json → Except Flaw Double
  | .float x => .ok x
  | .bool b => .ok (.ofInt (if b then 1 else 0))
  | .int n => if (Double.ofInt n).isFinite then .ok (.ofInt n) else .error .notNumber
  | .str t => spelling t >>= numberText
  | _ => .error .notNumber

def string : Json → Except Flaw Text
  | .str t => .ok t
  | _ => .error .notString

def longEnough (length : Nat) (t : Text) : Except Flaw Text :=
  if length = 0 then .ok t
  else if !t.isEncodable then .error .notUnicode
  else if t.length < length then .error .tooShort
  else .ok t

def yes : List String := ["1", "y", "yes", "t", "true", "on"]

def no : List String := ["0", "n", "no", "f", "false", "off"]

def bit (n : Int) : Except Flaw Bool :=
  if n = 1 then .ok true else if n = 0 then .ok false else .error .booleanSpelling

def booleanText (t : Text) : Except Flaw Bool :=
  if yes.any (Text.ofString · == t.lower) then .ok true
  else if no.any (Text.ofString · == t.lower) then .ok false
  else .error .booleanSpelling

def isShort (n : Int) : Bool := -(1 <<< 63 : Nat) ≤ n && n < (1 <<< 63 : Nat)

def boolean : Json → Except Flaw Bool
  | .bool b => .ok b
  | .int n => if isShort n then bit n else .error .notBoolean
  | .float x =>
    match integerDouble x with
    | .ok n => bit n
    | .error _ => .error .notBoolean
  | .str t => spelling t >>= booleanText
  | _ => .error .notBoolean

def choice (values : List String) : Json → Except Flaw Text
  | .str t => do
    let t ← spelling t
    if values.any (Text.ofString · == t) then return t else throw .notChoice
  | _ => .error .notChoice

def members : Json → Except Flaw Json.Members
  | .obj ms => .ok ms
  | _ => .error .notObject

end Check

end RequestLine
