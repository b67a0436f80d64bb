import RequestLine.Check
import RequestLine.Json.Writer

set_option autoImplicit false

namespace RequestLine

inductive Shape where
  | integer (low high : Option Int)
  | string (length : Nat)
  | boolean
  | choice (values : List String)
  | members
  | anything
  | nullable (shape : Shape)
  | record (fields : List (String × Shape × Option Json))

namespace Shape

def leaf {α : Type} (value : α → Json) : Except Flaw α → Checked Json
  | .ok a => .ok (value a)
  | .error flaw => .error [⟨[], flaw⟩]

mutual

def check : Shape → Json → Checked Json
  | .integer low high, v => leaf .int (Check.integer v >>= Check.between low high)
  | .string length, v => leaf .str (Check.string v >>= Check.longEnough length)
  | .boolean, v => leaf .bool (Check.boolean v)
  | .choice values, v => leaf .str (Check.choice values v)
  | .members, v => leaf .obj (Check.members v)
  | .anything, v => .ok v
  | .nullable _, .null => .ok .null
  | .nullable shape, v => check shape v
  | .record fields, .obj given => .obj <$> checkFields given fields
  | .record _, _ => .error [⟨[], .notRecord⟩]

def checkFields (given : Json.Members) :
    List (String × Shape × Option Json) → Checked Json.Members
  | [] => .ok []
  | (name, shape, absent) :: rest =>
    let key := Text.ofString name
    let field : Checked Json := match Json.get? key given, absent with
      | some v, _ =>
        match check shape v with
        | .ok v => .ok v
        | .error issues => .error (issues.map (·.within key))
      | none, some v => .ok v
      | none, none => .error [⟨[key], .missing⟩]
    (fun v vs => (key, v) :: vs) <$> field <*> checkFields given rest

end

end Shape

structure Schema where
  fields : List (String × Shape × Option Json)
  frozen : Bool

namespace Schema

inductive Fault where
  | invalid (issues : List Issue)
  | readOnly
  | unknownField
  deriving DecidableEq, Repr

def check (s : Schema) (v : Json) : Except Fault Json :=
  match (Shape.record s.fields).check v with
  | .ok v => .ok v
  | .error issues => .error (.invalid issues)

def derived : List String := ["model_extra", "model_fields_set"]

def isPrivate (field : Text) : Bool :=
  field.head? == some (.char '_') && field != Text.ofString "__root__"

def assign (s : Schema) (field : Text) (v : Json) (record : Json) : Except Fault Json :=
  -- A private name belongs to no field and is never written.
  if isPrivate field then .ok record
  else if s.frozen then .error (.invalid [⟨[field], .frozen⟩])
  else if derived.any (Text.ofString · == field) then .error .readOnly
  else if s.fields.any (Text.ofString ·.1 == field) then
    match record with
    | .obj members => .ok (.obj (Json.put field v members))
    | other => .ok other
  else .error .unknownField

def assignAll (s : Schema) (record : Json) : List (Text × Json) → List (Except Fault Text)
  | [] => []
  | (field, v) :: rest =>
    match s.assign field v record with
    | .ok after => .ok after.write :: assignAll s after rest
    | .error fault => .error fault :: assignAll s record rest

end Schema

end RequestLine
