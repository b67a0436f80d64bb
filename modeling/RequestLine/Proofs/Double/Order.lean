import RequestLine.Proofs.Double.Rounding

set_option autoImplicit false

namespace RequestLine.Double

theorem roundHalfEven_mono {a b : Nat} (d : Nat) (h : a ≤ b) :
    roundHalfEven a d ≤ roundHalfEven b d := by
  have quotients := Nat.div_le_div_right (c := d) h
  have wholeA := Nat.div_add_mod a d
  have wholeB := Nat.div_add_mod b d
  have boundsA := roundHalfEven_bounds a d
  have boundsB := roundHalfEven_bounds b d
  rcases Nat.lt_or_eq_of_le quotients with smaller | same
  · omega
  · unfold roundHalfEven
    dsimp only
    rw [same] at wholeA ⊢
    generalize b / d = q at *
    split <;> split <;> omega

def nearest (a d : Nat) : Nat :=
  let p := (a / d).log2 - 52
  roundHalfEven a (d <<< p) <<< p

theorem nearest_zero (d : Nat) : nearest 0 d = 0 := by
  rw [nearest, roundHalfEven_zero, Nat.zero_shiftLeft]

theorem log2_mono {m n : Nat} (h : m ≤ n) : m.log2 ≤ n.log2 := by
  by_cases zero : m = 0
  · subst zero
    exact Nat.zero_le _
  · exact (Nat.le_log2 (by omega)).mpr (Nat.le_trans (Nat.log2_self_le zero) h)

theorem nearest_mono {a b : Nat} (d : Nat) (h : a ≤ b) : nearest a d ≤ nearest b d := by
  have exponents : (a / d).log2 - 52 ≤ (b / d).log2 - 52 :=
    Nat.sub_le_sub_right (log2_mono (Nat.div_le_div_right h)) 52
  have most := (significand_bounds a d).1
  have least := (significand_bounds b d).2.1
  unfold nearest
  dsimp only at *
  generalize (a / d).log2 - 52 = p at *
  generalize (b / d).log2 - 52 = q at *
  rw [Nat.shiftLeft_eq, Nat.shiftLeft_eq _ q]
  rcases Nat.lt_or_eq_of_le exponents with lower | same
  · -- A higher binade begins where the lower one ends.
    have large := least.resolve_right (by omega)
    calc roundHalfEven a (d <<< p) * 2 ^ p
      _ ≤ 2 ^ 53 * 2 ^ p := Nat.mul_le_mul_right _ most
      _ = 2 ^ 52 * 2 ^ (p + 1) := by rw [Nat.pow_succ 2 p]; omega
      _ ≤ 2 ^ 52 * 2 ^ q := Nat.mul_le_mul_left _ (Nat.pow_le_pow_right (by decide) lower)
      _ ≤ roundHalfEven b (d <<< q) * 2 ^ q := Nat.mul_le_mul_right _ large
  · rw [same]
    exact Nat.mul_le_mul_right _ (roundHalfEven_mono _ h)

theorem eq_of_ofParts {negative s : Bool} {m n p q : Nat}
    {valid : n < 1 <<< 53 ∧ (1 <<< 52 ≤ n ∨ q = 0) ∧ q ≤ 2045}
    (h : ofParts negative m p = .finite s n q valid) : s = negative ∧ n = m ∧ q = p := by
  unfold ofParts at h
  split at h
  next =>
    cases h
    exact ⟨rfl, rfl, rfl⟩
  next => contradiction

theorem eq_of_ofQuotient {negative s : Bool} {a d m p : Nat}
    {valid : m < 1 <<< 53 ∧ (1 <<< 52 ≤ m ∨ p = 0) ∧ p ≤ 2045}
    (h : ofQuotient negative a d = .finite s m p valid) : s = negative ∧ m <<< p = nearest a d := by
  unfold ofQuotient at h
  unfold nearest
  dsimp only at *
  split at h
  next top =>
    obtain ⟨rfl, rfl, rfl⟩ := eq_of_ofParts h
    rw [top, Nat.shiftLeft_eq, Nat.shiftLeft_eq _ (_ - 52), Nat.pow_succ]
    refine ⟨rfl, ?_⟩
    simp only [Nat.reduceShiftLeft]
    omega
  next =>
    obtain ⟨rfl, rfl, rfl⟩ := eq_of_ofParts h
    exact ⟨rfl, rfl⟩

theorem units?_ofQuotient (negative : Bool) {a d k : Nat} (small : a / d < unit <<< k)
    (limit : k ≤ 1000) :
    (ofQuotient negative a d).units? = some (signed negative (nearest a d)) := by
  rw [unit_shiftLeft] at small
  obtain ⟨m, p, valid, rounded, -⟩ := exists_ofQuotient negative small (by omega)
  rw [rounded, units?, (eq_of_ofQuotient rounded).2]

def odd (f : Nat → Nat) (n : Int) : Int := signed (decide (n < 0)) (f n.natAbs)

theorem odd_signed {f : Nat → Nat} (zero : f 0 = 0) (negative : Bool) (n : Nat) :
    odd f (signed negative n) = signed negative (f n) := by
  rw [odd, natAbs_signed]
  cases negative with
  | false => simp [signed, Int.not_lt.mpr (Int.natCast_nonneg n)]
  | true =>
    by_cases none : n = 0
    · simp [signed, none, zero]
    · simp [signed, show 0 < n by omega]

theorem odd_nonneg {f : Nat → Nat} {n : Int} (h : 0 ≤ n) : 0 ≤ odd f n := by
  simp [odd, signed, Int.not_lt.mpr h]

theorem odd_nonpos {f : Nat → Nat} (zero : f 0 = 0) {n : Int} (h : n ≤ 0) : odd f n ≤ 0 := by
  by_cases none : n = 0
  · simp [none, odd, signed, zero]
  · simp [odd, signed, show n < 0 by omega]

theorem odd_mono {f : Nat → Nat} (mono : ∀ m n, m ≤ n → f m ≤ f n) {m n : Int} (h : m ≤ n) :
    odd f m ≤ odd f n := by
  unfold odd signed
  rcases Int.lt_or_le m 0 with negM | posM <;> rcases Int.lt_or_le n 0 with negN | posN
  · have := mono n.natAbs m.natAbs (by omega)
    simp only [negM, negN, decide_true, if_true]
    omega
  · simp only [negM, Int.not_lt.mpr posN, decide_true, decide_false, if_true, Bool.false_eq_true,
      if_false]
    omega
  · omega
  · have := mono m.natAbs n.natAbs (by omega)
    simp only [Int.not_lt.mpr posM, Int.not_lt.mpr posN, decide_false]
    simpa using this

theorem units?_ofUnits (zeroNegative : Bool) {n : Int} {k : Nat} (small : n.natAbs < unit <<< k)
    (limit : k ≤ 1000) : (ofUnits zeroNegative n).units? = some (odd (nearest · 1) n) := by
  unfold ofUnits
  split
  next none =>
    rw [none]
    cases zeroNegative <;> rfl
  next => exact units?_ofQuotient _ (by rwa [Nat.div_one]) limit

theorem units?_mul {x y : Double} {a : Int} {b j k : Nat} (left : x.units? = some a)
    (right : y.units? = some (b : Int)) (smallLeft : a.natAbs < unit <<< k)
    (smallRight : b < unit <<< j) (limit : j + k ≤ 1000) :
    (x.mul y).units? = some (odd (fun n => nearest (n * b) unit) a) := by
  cases x with
  | finite s m p _ =>
    cases y with
    | finite t n q _ =>
      obtain rfl := Option.some.inj left
      have positive := Option.some.inj right
      have magnitude : n <<< q = b := by
        have := congrArg Int.natAbs positive
        rwa [natAbs_signed] at this
      rw [natAbs_signed] at smallLeft
      have zero : nearest (0 * b) unit = 0 := by rw [Nat.zero_mul, nearest_zero]
      rw [mul, magnitude, units?_ofQuotient _ (product_lt smallLeft smallRight) limit,
        odd_signed zero]
      cases t with
      | false => rw [Bool.bne_false]
      | true =>
        -- A zero may have a sign, and then the product is zero too.
        have none : b = 0 := by
          have := positive
          rw [magnitude] at this
          simp only [signed, if_true] at this
          omega
        rw [none, Nat.mul_zero, nearest_zero]
        cases s <;> rfl
    | _ => contradiction
  | _ => contradiction

theorem truncate_eq {x : Double} {a : Int} (value : x.units? = some a) :
    x.truncate = .ok (odd (· / unit) a) := by
  cases x with
  | finite negative m p valid =>
    obtain rfl := Option.some.inj value
    rw [odd_signed (Nat.zero_div unit)]
    rfl
  | _ => contradiction

theorem round_eq {x : Double} {a : Int} (value : x.units? = some a) :
    x.round = .ok (odd (roundHalfEven · unit) a) := by
  cases x with
  | finite negative m p valid =>
    obtain rfl := Option.some.inj value
    rw [odd_signed (roundHalfEven_zero unit)]
    rfl
  | _ => contradiction

theorem odd_odd {f g : Nat → Nat} (zero : g 0 = 0) (n : Int) :
    odd g (odd f n) = odd (fun m => g (f m)) n :=
  odd_signed zero _ _

end RequestLine.Double
