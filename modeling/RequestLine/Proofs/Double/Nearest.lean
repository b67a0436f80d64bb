import RequestLine.Proofs.Double.Rounding

set_option autoImplicit false

namespace RequestLine.Double

/-- The integer nearest to the double, of two that are equally near the even one. -/
def NearestEven (x : Double) (n : Int) : Prop :=
  ∃ u, x.units? = some u ∧ 2 * (u - n * unit).natAbs ≤ unit ∧
    (2 * (u - n * unit).natAbs = unit → n % 2 = 0)

theorem roundHalfEven_spec (a : Nat) {d : Nat} (positive : 0 < d) :
    let n := roundHalfEven a d
    2 * ((a : Int) - n * d).natAbs ≤ d ∧ (2 * ((a : Int) - n * d).natAbs = d → n % 2 = 0) := by
  have whole : (d : Int) * (a / d : Nat) + (a % d : Nat) = a := by
    exact_mod_cast Nat.div_add_mod a d
  have rest := Nat.mod_lt a positive
  dsimp only
  unfold roundHalfEven
  dsimp only
  generalize a / d = q at *
  generalize a % d = r at *
  split
  next down =>
    rw [← whole, Int.mul_comm (q : Int)]
    omega
  next up =>
    have next : ((q + 1 : Nat) : Int) * d = d * q + d := by
      rw [Int.natCast_add, Int.add_mul, Int.mul_comm]
      omega
    rw [next]
    omega

theorem NearestEven.of_round {x : Double} {n : Int} (h : x.round = .ok n) : x.NearestEven n := by
  cases x with
  | finite negative m p valid =>
    cases h
    have near := roundHalfEven_spec (m <<< p) unit_pos
    refine ⟨_, rfl, ?_⟩
    generalize m <<< p = a at *
    generalize roundHalfEven a unit = r at *
    cases negative with
    | false =>
      simp only [signed, Bool.false_eq_true, if_false]
      exact ⟨near.1, fun tie => by exact_mod_cast near.2 tie⟩
    | true =>
      simp only [signed, if_true, Int.neg_mul]
      omega
  | _ => contradiction

theorem NearestEven.not_lt {x : Double} {m n : Int} (first : x.NearestEven m)
    (second : x.NearestEven n) : ¬ m < n := by
  intro less
  obtain ⟨u, value, nearM, evenM⟩ := first
  obtain ⟨v, same, nearN, evenN⟩ := second
  rw [value] at same
  cases same
  have positive : 0 < (unit : Int) := by exact_mod_cast unit_pos
  have apart : (m + 1) * unit ≤ n * unit :=
    Int.mul_le_mul_of_nonneg_right less (Int.le_of_lt positive)
  have step : (m + 1) * unit = m * unit + unit := by rw [Int.add_mul, Int.one_mul]
  have adjacent : m + 1 = n := by
    refine Int.eq_of_mul_eq_mul_right (Int.ne_of_gt positive) ?_
    omega
  have even := evenM (by omega)
  have evenNext := evenN (by rw [← adjacent, step]; rw [← adjacent, step] at nearN; omega)
  omega

theorem NearestEven.unique {x : Double} {m n : Int} (first : x.NearestEven m)
    (second : x.NearestEven n) : m = n :=
  Int.le_antisymm (Int.not_lt.mp (second.not_lt first)) (Int.not_lt.mp (first.not_lt second))

end RequestLine.Double
