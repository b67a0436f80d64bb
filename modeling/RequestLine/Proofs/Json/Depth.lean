import RequestLine.Json

set_option autoImplicit false

namespace RequestLine.Json

theorem foldl_max_le {n : Nat} (parts : List Nat) (m : Nat) :
    parts.foldl max m ≤ n ↔ m ≤ n ∧ ∀ part ∈ parts, part ≤ n := by
  induction parts generalizing m with
  | nil => simp
  | cons part parts ih => rw [List.foldl_cons, ih, Nat.max_le, List.forall_mem_cons, and_assoc]

theorem depth_arr (elements : List Json) :
    (Json.arr elements).depth = 1 + (elements.map depth).foldl max 0 :=
  fold_arr depthAlgebra elements

theorem depth_obj (members : Members) :
    (Json.obj members).depth = 1 + (members.map fun m => m.2.depth).foldl max 0 := by
  have parts := fold_obj depthAlgebra members
  simp only [depthAlgebra, List.foldl_map] at parts
  rw [List.foldl_map]
  exact parts

theorem add_foldl_max_le {n m : Nat} (parts : List Nat) :
    n + (1 + parts.foldl max 0) ≤ m + 1 ↔ n ≤ m ∧ ∀ part ∈ parts, n + 1 + part ≤ m + 1 := by
  have upper := (foldl_max_le parts 0).mp (Nat.le_refl _)
  constructor
  · intro h
    refine ⟨by omega, fun part member => ?_⟩
    have := upper.2 part member
    omega
  · rintro ⟨here, inside⟩
    have within : parts.foldl max 0 ≤ m - n := (foldl_max_le parts 0).mpr
      ⟨Nat.zero_le _, fun part member => by have := inside part member; omega⟩
    omega

theorem depth_arr_add_le {elements : List Json} {n m : Nat} :
    n + (Json.arr elements).depth ≤ m + 1 ↔
      n ≤ m ∧ ∀ v ∈ elements, n + 1 + v.depth ≤ m + 1 := by
  rw [depth_arr, add_foldl_max_le, List.forall_mem_map]

theorem depth_obj_add_le {members : Members} {n m : Nat} :
    n + (Json.obj members).depth ≤ m + 1 ↔
      n ≤ m ∧ ∀ v ∈ members, n + 1 + v.2.depth ≤ m + 1 := by
  rw [depth_obj, add_foldl_max_le, List.forall_mem_map]

theorem depth_arr_le {elements : List Json} {n : Nat} :
    (Json.arr elements).depth ≤ n + 1 ↔ ∀ v ∈ elements, v.depth ≤ n := by
  rw [depth_arr, Nat.add_comm, Nat.add_le_add_iff_right, foldl_max_le]
  simp

theorem depth_obj_le {members : Members} {n : Nat} :
    (Json.obj members).depth ≤ n + 1 ↔ ∀ m ∈ members, m.2.depth ≤ n := by
  rw [depth_obj, Nat.add_comm, Nat.add_le_add_iff_right, foldl_max_le, List.forall_mem_map]
  simp

theorem depth_record_le {fields : List (String × Json)} {n : Nat} :
    (record fields).depth ≤ n + 1 ↔ ∀ f ∈ fields, f.2.depth ≤ n := by
  rw [record, depth_obj_le, List.forall_mem_map]

theorem depth_pos (v : Json) : 0 < v.depth := by
  cases v with
  | arr elements => exact depth_arr elements ▸ Nat.lt_add_right _ Nat.one_pos
  | obj members => exact depth_obj members ▸ Nat.lt_add_right _ Nat.one_pos
  | _ => exact Nat.one_pos

end RequestLine.Json
