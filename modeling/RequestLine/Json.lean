import RequestLine.Double
import RequestLine.Text

set_option autoImplicit false

/-!
JSON values. Integers have any size, other numbers are doubles, and an object keeps the order in
which its keys first came. Every walk over a value is `Json.fold` with an algebra, for which
`fold_arr` and `fold_obj` are the equations to reason with.
-/

namespace RequestLine

inductive Json where
  | null
  | bool (b : Bool)
  | int (n : Int)
  | float (x : Double)
  | str (t : Text)
  | arr (elements : List Json)
  | obj (members : List (Text × Json))

namespace Json

instance : Inhabited Json := ⟨.null⟩

abbrev Members := List (Text × Json)

/-- What a walk makes of each kind of value, given what it made of the parts. -/
structure Algebra (β : Type) where
  null : β
  bool : Bool → β
  int : Int → β
  float : Double → β
  str : Text → β
  arr : List β → β
  obj : List (Text × β) → β

mutual

def fold {β : Type} (alg : Algebra β) : Json → β
  | .null => alg.null
  | .bool b => alg.bool b
  | .int n => alg.int n
  | .float x => alg.float x
  | .str t => alg.str t
  | .arr elements => alg.arr (foldElements alg [] elements)
  | .obj members => alg.obj (foldMembers alg [] members)

def foldElements {β : Type} (alg : Algebra β) (done : List β) : List Json → List β
  | [] => done.reverse
  | v :: rest => foldElements alg (fold alg v :: done) rest

def foldMembers {β : Type} (alg : Algebra β) (done : List (Text × β)) : Members → List (Text × β)
  | [] => done.reverse
  | (key, v) :: rest => foldMembers alg ((key, fold alg v) :: done) rest

end

theorem foldElements_eq {β : Type} (alg : Algebra β) (done : List β) (elements : List Json) :
    foldElements alg done elements = done.reverse ++ elements.map (fold alg) := by
  induction elements generalizing done with
  | nil => simp [foldElements]
  | cons v rest ih => simp [foldElements, ih]

theorem foldMembers_eq {β : Type} (alg : Algebra β) (done : List (Text × β)) (members : Members) :
    foldMembers alg done members = done.reverse ++ members.map fun m => (m.1, fold alg m.2) := by
  induction members generalizing done with
  | nil => simp [foldMembers]
  | cons m rest ih => obtain ⟨key, v⟩ := m; simp [foldMembers, ih]

theorem fold_arr {β : Type} (alg : Algebra β) (elements : List Json) :
    fold alg (.arr elements) = alg.arr (elements.map (fold alg)) := by
  simp [fold, foldElements_eq]

theorem fold_obj {β : Type} (alg : Algebra β) (members : Members) :
    fold alg (.obj members) = alg.obj (members.map fun m => (m.1, fold alg m.2)) := by
  simp [fold, foldMembers_eq]

def put {α : Type} (key : Text) (v : α) : List (Text × α) → List (Text × α)
  | [] => [(key, v)]
  | m :: rest => if m.1 = key then (key, v) :: rest else m :: put key v rest

def collect {α : Type} (written : List (Text × α)) : List (Text × α) :=
  written.foldl (fun members m => put m.1 m.2 members) []

def get? (key : Text) (members : Members) : Option Json := members.lookup key

def members? : Json → Option Members
  | .obj members => some members
  | _ => none

def isPresent : Json → Bool
  | .null => false
  | .bool b => b
  | .int n => n != 0
  | .float x => !x.isZero
  | .str t => !t.isEmpty
  | .arr elements => !elements.isEmpty
  | .obj members => !members.isEmpty

def record (fields : List (String × Json)) : Json :=
  .obj (fields.map fun f => (Text.ofString f.1, f.2))

end Json

end RequestLine

namespace RequestLine.Json

def depthAlgebra : Algebra Nat where
  null := 1
  bool _ := 1
  int _ := 1
  float _ := 1
  str _ := 1
  arr parts := 1 + parts.foldl max 0
  obj parts := 1 + parts.foldl (fun n m => max n m.2) 0

def depth (v : Json) : Nat := v.fold depthAlgebra

def maxWrittenDepth : Nat := 255

end RequestLine.Json
