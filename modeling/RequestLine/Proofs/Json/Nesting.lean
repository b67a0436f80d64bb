import RequestLine.Proofs.Json.Complete
import RequestLine.Proofs.Json.Depth
import RequestLine.Proofs.Json.Kept

set_option autoImplicit false

namespace RequestLine.Json

namespace Grammar

variable {dialect : Dialect} {t : Text} {v : Json}

theorem Scalar.depth_eq (scalar : Scalar dialect t v) : v.depth = 1 := by
  cases scalar with
  | word known =>
    have known := mem_lenient known
    simp only [Reader.words, Reader.constants, List.cons_append, List.nil_append, List.mem_cons,
      List.not_mem_nil, or_false] at known
    rcases known with rfl | rfl | rfl | rfl | rfl | rfl <;> rfl
  | string => rfl
  | number number => cases number <;> rfl

theorem Value.depth_le {depth : Nat} (value : Value dialect depth t v) : v.depth ≤ depth + 1 := by
  -- Each level of brackets leaves one level less for what is inside.
  induction depth generalizing t v with
  | zero => exact Nat.le_of_eq (Scalar.depth_eq value)
  | succ depth ih =>
    cases value with
    | scalar scalar => exact Nat.le_trans (Nat.le_of_eq scalar.depth_eq) (Nat.le_add_left 1 _)
    | arr inner =>
      refine depth_arr_le.mpr fun v member => ?_
      obtain ⟨u, -, isValue⟩ := inner.exists_inside v member
      exact ih isValue
    | obj inner =>
      refine depth_obj_le.mpr fun m member => ?_
      obtain ⟨u, -, isMember⟩ := inner.exists_inside m (mem_of_mem_collect member)
      obtain ⟨w, -, isValue⟩ := isMember.exists_inside
      exact ih isValue

theorem exceeds_brackets (dialect : Dialect) {depth n : Nat} (deep : depth ≤ n) (rest : Text) :
    Exceeds dialect depth (List.replicate (n + 1) (.char '[') ++ rest) := by
  induction depth generalizing n with
  | zero => exact ⟨'[', _, .inl rfl, rfl⟩
  | succ depth ih =>
    obtain ⟨m, rfl⟩ : ∃ m, n = m + 1 := ⟨n - 1, by omega⟩
    have inner := ih (n := m) (by omega)
    have descends : Exceeds dialect (depth + 1) _ := .arr blanks_nil (.here inner)
    exact descends

end Grammar

theorem depth_le_of_read [Runtime] {dialect : Dialect} {t : Text} {v : Json}
    (h : read dialect t = .ok v) :
    v.depth ≤ Runtime.nesting + 1 := by
  obtain ⟨-, value, -⟩ := document_of_read h
  exact value.depth_le

theorem read_brackets [Runtime] (dialect : Dialect) {n : Nat} (deep : Runtime.nesting < n)
    (rest : Text) :
    read dialect (List.replicate n (.char '[') ++ rest) = .error .tooDeep := by
  obtain ⟨m, rfl⟩ : ∃ m, n = m + 1 := ⟨n - 1, by omega⟩
  have exceeds := Grammar.exceeds_brackets dialect (Nat.le_of_lt_succ deep) rest
  have overruns : Grammar.Overruns dialect Runtime.nesting _ := .mk Grammar.blanks_nil exceeds
  exact read_overruns overruns

end RequestLine.Json
