import Mathlib.Algebra.Group.Nat.Defs
import RequestLine.Double

set_option autoImplicit false

namespace RequestLine.Double

theorem roundHalfEven_bounds (a d : Nat) :
    a / d ≤ roundHalfEven a d ∧ roundHalfEven a d ≤ a / d + 1 := by
  unfold roundHalfEven
  dsimp only
  split <;> omega

theorem binade (q : Nat) :
    (q.log2 - 52 = 0 ∧ q < 2 ^ 53) ∨
      (0 < q.log2 - 52 ∧ 2 ^ 52 * 2 ^ (q.log2 - 52) ≤ q ∧ q < 2 ^ 53 * 2 ^ (q.log2 - 52)) := by
  by_cases low : q < 2 ^ 53
  · left
    refine ⟨?_, low⟩
    by_cases zero : q = 0
    · subst zero
      rfl
    · have := (Nat.log2_lt zero).mpr low
      omega
  · right
    have positive : q ≠ 0 := by omega
    have high : 53 ≤ q.log2 := (Nat.le_log2 positive).mpr (Nat.le_of_not_lt low)
    refine ⟨by omega, ?_, ?_⟩
    · rw [← Nat.pow_add, Nat.add_sub_cancel' (by omega)]
      exact Nat.log2_self_le positive
    · rw [← Nat.pow_add, show 53 + (q.log2 - 52) = q.log2 + 1 by omega]
      exact Nat.lt_log2_self

def Below (k : Nat) (x : Double) : Prop := ∃ n, x.units? = some n ∧ n.natAbs < unit <<< k

instance (k : Nat) (x : Double) : Decidable (x.Below k) :=
  match value : x.units? with
  | some n => decidable_of_iff (n.natAbs < unit <<< k) (by simp [Below, value])
  | none => isFalse (by simp [Below, value])

def Nonneg (x : Double) : Prop := ∃ n, x.units? = some n ∧ 0 ≤ n

theorem natAbs_signed (negative : Bool) (n : Nat) : (signed negative n).natAbs = n := by
  cases negative <;> simp [signed]

theorem signed_nonneg {negative : Bool} {n : Nat} :
    0 ≤ signed negative n ↔ (negative = true → n = 0) := by
  cases negative <;> simp [signed]

theorem below_finite {negative : Bool} {m p k : Nat}
    {valid : m < 1 <<< 53 ∧ (1 <<< 52 ≤ m ∨ p = 0) ∧ p ≤ 2045} :
    (finite negative m p valid).Below k ↔ m <<< p < unit <<< k := by
  simp [Below, units?, natAbs_signed]

theorem nonneg_finite {negative : Bool} {m p : Nat}
    {valid : m < 1 <<< 53 ∧ (1 <<< 52 ≤ m ∨ p = 0) ∧ p ≤ 2045} :
    (finite negative m p valid).Nonneg ↔ (negative = true → m <<< p = 0) := by
  rw [← signed_nonneg]
  simp [Nonneg, units?]

theorem unit_pos : 0 < unit := by decide

theorem unit_shiftLeft (k : Nat) : unit <<< k = 2 ^ (1074 + k) := by
  rw [unit, ← Nat.shiftLeft_add, Nat.shiftLeft_eq, Nat.one_mul]

theorem ofParts_eq (negative : Bool) {m p : Nat}
    (valid : m < 1 <<< 53 ∧ (1 <<< 52 ≤ m ∨ p = 0) ∧ p ≤ 2045) :
    ofParts negative m p = .finite negative m p valid := dif_pos valid

theorem significand_bounds (a d : Nat) :
    let p := (a / d).log2 - 52
    let m := roundHalfEven a (d <<< p)
    m ≤ 2 ^ 53 ∧ (2 ^ 52 ≤ m ∨ p = 0) ∧ m * 2 ^ p ≤ 2 * (a / d) + 1 := by
  dsimp only
  have bounds := roundHalfEven_bounds a (d <<< ((a / d).log2 - 52))
  have grid : a / (d <<< ((a / d).log2 - 52)) = a / d / 2 ^ ((a / d).log2 - 52) := by
    rw [Nat.shiftLeft_eq, Nat.div_div_eq_div_mul]
  rw [grid] at bounds
  have within := binade (a / d)
  generalize roundHalfEven a (d <<< ((a / d).log2 - 52)) = m at bounds ⊢
  generalize a / d = q at *
  generalize q.log2 - 52 = p at *
  rcases within with ⟨lowest, small⟩ | ⟨-, least, most⟩
  · subst lowest
    rw [Nat.pow_zero, Nat.div_one] at bounds
    refine ⟨by omega, .inr rfl, ?_⟩
    rw [Nat.pow_zero, Nat.mul_one]
    omega
  · have positive := Nat.two_pow_pos p
    have low : 2 ^ 52 ≤ q / 2 ^ p := (Nat.le_div_iff_mul_le positive).mpr least
    have high : q / 2 ^ p < 2 ^ 53 := (Nat.div_lt_iff_lt_mul positive).mpr most
    refine ⟨by omega, .inl (by omega), ?_⟩
    calc m * 2 ^ p
      _ ≤ (q / 2 ^ p + 1) * 2 ^ p := Nat.mul_le_mul_right _ bounds.2
      _ = q / 2 ^ p * 2 ^ p + 2 ^ p := Nat.succ_mul _ _
      _ ≤ 2 * q + 1 := by
        have := Nat.div_mul_le_self q (2 ^ p)
        omega

theorem exists_ofQuotient (negative : Bool) {a d k : Nat} (small : a / d < 2 ^ k)
    (limit : k ≤ 2097) :
    ∃ m p valid, ofQuotient negative a d = .finite negative m p valid ∧
      m <<< p ≤ 2 * (a / d) + 1 := by
  obtain ⟨most, least, close⟩ := significand_bounds a d
  have highest : (a / d).log2 - 52 ≤ 2044 := by
    by_cases zero : a / d = 0
    · rw [zero]
      decide
    · have := (Nat.log2_lt zero).mpr small
      omega
  unfold ofQuotient
  dsimp only
  generalize roundHalfEven a (d <<< ((a / d).log2 - 52)) = m at *
  generalize a / d = q at *
  generalize q.log2 - 52 = p at *
  by_cases beyond : m = 1 <<< 53
  · rw [if_pos beyond]
    refine ⟨_, _, ⟨by decide, .inl (by decide), by omega⟩, ofParts_eq _ _, ?_⟩
    rw [beyond] at close
    rw [Nat.shiftLeft_eq, Nat.pow_succ]
    simp only [Nat.reduceShiftLeft] at close ⊢
    omega
  · rw [if_neg beyond]
    simp only [Nat.reduceShiftLeft] at beyond
    exact ⟨m, p, ⟨by simp only [Nat.reduceShiftLeft]; omega, least, by omega⟩, ofParts_eq _ _,
      Nat.shiftLeft_eq m p ▸ close⟩

theorem roundHalfEven_zero (d : Nat) : roundHalfEven 0 d = 0 := by
  unfold roundHalfEven
  rw [Nat.zero_div, Nat.zero_mod, if_pos]
  omega

theorem ofQuotient_zero (negative : Bool) (d : Nat) : ofQuotient negative 0 d = zero negative := by
  rw [ofQuotient, roundHalfEven_zero, Nat.zero_div]
  exact ofParts_eq negative _

theorem below_ofQuotient (negative : Bool) {a d k : Nat} (small : a / d < unit <<< k)
    (limit : k ≤ 1000) : (ofQuotient negative a d).Below (k + 1) := by
  rw [unit_shiftLeft] at small
  obtain ⟨m, p, valid, rounded, close⟩ := exists_ofQuotient negative small (by omega)
  rw [rounded, below_finite, unit_shiftLeft, ← Nat.add_assoc, Nat.pow_succ]
  omega

theorem nonneg_ofQuotient {negative : Bool} {a d k : Nat} (small : a / d < unit <<< k)
    (limit : k ≤ 1000) (positive : negative = true → a = 0) :
    (ofQuotient negative a d).Nonneg := by
  by_cases none : a = 0
  · rw [none, ofQuotient_zero, zero, nonneg_finite]
    exact fun _ => Nat.zero_shiftLeft 0
  · rw [unit_shiftLeft] at small
    obtain ⟨m, p, valid, rounded, -⟩ := exists_ofQuotient negative small (by omega)
    rw [rounded, nonneg_finite]
    exact fun minus => absurd (positive minus) none

theorem below_ofUnits (zeroNegative : Bool) {n : Int} {k : Nat} (small : n.natAbs < unit <<< k)
    (limit : k ≤ 1000) : (ofUnits zeroNegative n).Below (k + 1) := by
  unfold ofUnits
  split
  · rw [zero, below_finite, Nat.zero_shiftLeft, unit_shiftLeft]
    exact Nat.two_pow_pos _
  · exact below_ofQuotient _ (by rwa [Nat.div_one]) limit

theorem nonneg_ofUnits {zeroNegative : Bool} {n : Int} {k : Nat} (small : n.natAbs < unit <<< k)
    (limit : k ≤ 1000) (positive : 0 ≤ n) : (ofUnits zeroNegative n).Nonneg := by
  unfold ofUnits
  split
  · rw [zero, nonneg_finite]
    exact fun _ => Nat.zero_shiftLeft 0
  · refine nonneg_ofQuotient (by rwa [Nat.div_one]) limit fun minus => ?_
    have := of_decide_eq_true minus
    omega

theorem sub_eq {x y : Double} {a b : Int} (left : x.units? = some a) (right : y.units? = some b) :
    x.sub y = ofUnits (x.negative && !y.negative) (a - b) := by
  cases x <;> cases y <;> simp_all [sub, units?]

theorem atLeast_iff {x y : Double} {a b : Int} (left : x.units? = some a)
    (right : y.units? = some b) : x.atLeast y = true ↔ b ≤ a := by
  cases x <;> cases y <;> simp_all [atLeast, units?]

theorem difference_lt {a b : Int} {k : Nat} (left : a.natAbs < unit <<< k)
    (right : b.natAbs < unit <<< k) : (a - b).natAbs < unit <<< (k + 1) := by
  rw [Nat.shiftLeft_succ]
  omega

theorem below_sub {x y : Double} {k : Nat} (left : x.Below k) (right : y.Below k)
    (limit : k + 1 ≤ 1000) : (x.sub y).Below (k + 2) := by
  obtain ⟨a, ofX, smallX⟩ := left
  obtain ⟨b, ofY, smallY⟩ := right
  rw [sub_eq ofX ofY]
  exact below_ofUnits _ (difference_lt smallX smallY) limit

theorem nonneg_sub {x y : Double} {k : Nat} (left : x.Below k) (right : y.Below k)
    (limit : k + 1 ≤ 1000) (ordered : x.atLeast y = true) : (x.sub y).Nonneg := by
  obtain ⟨a, ofX, smallX⟩ := left
  obtain ⟨b, ofY, smallY⟩ := right
  have order := (atLeast_iff ofX ofY).mp ordered
  rw [sub_eq ofX ofY]
  exact nonneg_ofUnits (difference_lt smallX smallY) limit (by omega)

theorem product_lt {a b j k : Nat} (left : a < unit <<< k) (right : b < unit <<< j) :
    a * b / unit < unit <<< (j + k) := by
  rw [Nat.div_lt_iff_lt_mul unit_pos, Nat.shiftLeft_eq, Nat.pow_add]
  rw [Nat.shiftLeft_eq] at left right
  calc a * b
    _ < unit * 2 ^ k * (unit * 2 ^ j) := Nat.mul_lt_mul'' left right
    _ = unit * (2 ^ j * 2 ^ k) * unit := by ac_rfl

theorem below_mul {x y : Double} {j k : Nat} (left : x.Below k) (right : y.Below j)
    (limit : j + k ≤ 1000) : (x.mul y).Below (j + k + 1) := by
  cases x with
  | finite s m p _ =>
    cases y with
    | finite t n q _ =>
      exact below_ofQuotient _ (product_lt (below_finite.mp left) (below_finite.mp right)) limit
    | _ => simp [Below, units?] at right
  | _ => simp [Below, units?] at left

theorem nonneg_mul {x y : Double} {j k : Nat} (left : x.Below k) (right : y.Below j)
    (limit : j + k ≤ 1000) (first : x.Nonneg) (second : y.Nonneg) : (x.mul y).Nonneg := by
  cases x with
  | finite s m p _ =>
    cases y with
    | finite t n q _ =>
      rw [nonneg_finite] at first second
      refine nonneg_ofQuotient (product_lt (below_finite.mp left) (below_finite.mp right)) limit
        fun minus => ?_
      -- The signs differ, so one of the factors has a sign and is zero.
      cases s with
      | true => rw [first rfl, Nat.zero_mul]
      | false => rw [second (by simpa using minus), Nat.mul_zero]
    | _ => simp [Below, units?] at right
  | _ => simp [Below, units?] at left

theorem Below.truncate {x : Double} {k : Nat} (h : x.Below k) : ∃ n, x.truncate = .ok n := by
  cases x with
  | finite negative m p valid => exact ⟨_, rfl⟩
  | _ => simp [Below, units?] at h

theorem Nonneg.round {x : Double} (h : x.Nonneg) : ∃ n, x.round = .ok n ∧ 0 ≤ n := by
  cases x with
  | finite negative m p valid =>
    rw [nonneg_finite] at h
    refine ⟨_, rfl, signed_nonneg.mpr fun minus => ?_⟩
    rw [h minus]
    rfl
  | _ => simp [Nonneg, units?] at h

end RequestLine.Double
