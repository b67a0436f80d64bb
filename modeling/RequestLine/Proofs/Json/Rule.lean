import RequestLine.Proofs.Json.Keys

set_option autoImplicit false

namespace RequestLine.Json

theorem induction {motive : Json → Prop} (null : motive .null) (bool : ∀ b, motive (.bool b))
    (int : ∀ n, motive (.int n)) (float : ∀ x, motive (.float x)) (str : ∀ t, motive (.str t))
    (arr : ∀ elements, (∀ v ∈ elements, motive v) → motive (.arr elements))
    (obj : ∀ members, (∀ m ∈ members, motive m.2) → motive (.obj members)) : ∀ v, motive v
  | .null => null
  | .bool b => bool b
  | .int n => int n
  | .float x => float x
  | .str t => str t
  | .arr elements => arr elements fun v _ =>
      induction null bool int float str arr obj v
  | .obj members => obj members fun m _ =>
      induction null bool int float str arr obj m.2
termination_by v => sizeOf v
decreasing_by
  · have := List.sizeOf_lt_of_mem ‹v ∈ elements›
    simp; omega
  · have := List.sizeOf_lt_of_mem ‹m ∈ members›
    obtain ⟨key, v⟩ := m
    simp at *; omega

/-- What is asked of the parts of a value: its integers, doubles and strings, the keys of each
object one by one and all together. -/
structure Rule where
  int : Int → Prop := fun _ => True
  float : Double → Prop := fun _ => True
  str : Text → Prop := fun _ => True
  keys : List Text → Prop := fun _ => True

namespace Rule

def algebra (rule : Rule) : Algebra Prop where
  null := True
  bool _ := True
  int := rule.int
  float := rule.float
  str := rule.str
  arr parts := ∀ part ∈ parts, part
  obj parts := rule.keys (Json.keys parts) ∧ ∀ part ∈ parts, part.2

def and (a b : Rule) : Rule where
  int n := a.int n ∧ b.int n
  float x := a.float x ∧ b.float x
  str t := a.str t ∧ b.str t
  keys ks := a.keys ks ∧ b.keys ks

end Rule

def Obeys (rule : Rule) (v : Json) : Prop := v.fold rule.algebra

variable {rule : Rule}

@[simp] theorem obeys_null : Obeys rule .null := trivial

@[simp] theorem obeys_bool (b : Bool) : Obeys rule (.bool b) := trivial

@[simp] theorem obeys_int (n : Int) : Obeys rule (.int n) ↔ rule.int n := Iff.rfl

@[simp] theorem obeys_float (x : Double) : Obeys rule (.float x) ↔ rule.float x := Iff.rfl

@[simp] theorem obeys_str (t : Text) : Obeys rule (.str t) ↔ rule.str t := Iff.rfl

@[simp] theorem obeys_arr (elements : List Json) :
    Obeys rule (.arr elements) ↔ ∀ v ∈ elements, Obeys rule v := by
  rw [Obeys, fold_arr]
  exact List.forall_mem_map

@[simp] theorem obeys_obj (members : Members) :
    Obeys rule (.obj members) ↔
      rule.keys (keys members) ∧ ∀ m ∈ members, Obeys rule m.2 := by
  rw [Obeys, fold_obj]
  simp only [Rule.algebra, keys, List.map_map]
  exact and_congr Iff.rfl List.forall_mem_map

theorem obeys_record (fields : List (String × Json)) :
    Obeys rule (record fields) ↔
      rule.keys (fields.map fun f => Text.ofString f.1) ∧ ∀ f ∈ fields, Obeys rule f.2 := by
  rw [record, obeys_obj, List.forall_mem_map, keys, List.map_map]
  exact Iff.rfl

theorem Obeys.mono {a b : Rule} {v : Json} (h : Obeys a v) (int : ∀ n, a.int n → b.int n)
    (float : ∀ x, a.float x → b.float x) (str : ∀ t, a.str t → b.str t)
    (keys : ∀ ks, a.keys ks → b.keys ks) : Obeys b v := by
  induction v using Json.induction with
  | null => trivial
  | bool b => trivial
  | int n => exact int n h
  | float x => exact float x h
  | str t => exact str t h
  | arr elements ih =>
    rw [obeys_arr] at h ⊢
    exact fun v member => ih v member (h v member)
  | obj members ih =>
    rw [obeys_obj] at h ⊢
    exact ⟨keys _ h.1, fun m member => ih m member (h.2 m member)⟩

theorem obeys_and {a b : Rule} {v : Json} :
    Obeys (a.and b) v ↔ Obeys a v ∧ Obeys b v := by
  have both {α : Type} {xs : List α} {p q r : α → Prop} (each : ∀ x ∈ xs, p x ↔ q x ∧ r x) :
      (∀ x ∈ xs, p x) ↔ (∀ x ∈ xs, q x) ∧ ∀ x ∈ xs, r x :=
    ⟨fun h => ⟨fun x member => ((each x member).mp (h x member)).1,
      fun x member => ((each x member).mp (h x member)).2⟩,
      fun h x member => (each x member).mpr ⟨h.1 x member, h.2 x member⟩⟩
  induction v using Json.induction with
  | null => simp
  | bool b => simp
  | int n => exact Iff.rfl
  | float x => exact Iff.rfl
  | str t => exact Iff.rfl
  | arr elements ih =>
    rw [obeys_arr, obeys_arr, obeys_arr]
    exact both ih
  | obj members ih =>
    rw [obeys_obj, obeys_obj, obeys_obj, both ih]
    exact and_and_and_comm

end RequestLine.Json
