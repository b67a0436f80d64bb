import RequestLine.Double.Numeral
import RequestLine.Proofs.Digits
import RequestLine.Proofs.Double.Rounding

set_option autoImplicit false

namespace RequestLine

namespace Double

def overflow : Nat := (2 ^ 54 - 1) * 2 ^ 2044

theorem overflow_eq : overflow = (2 ^ 1024 - 2 ^ 970) * unit := by decide +kernel

theorem power_le {b m n : Nat} (base : 0 < b) (h : m ≤ n) : b ^ m ≤ b ^ n :=
  Nat.pow_le_pow_right base h

theorem ofParts_infinite (negative : Bool) (m : Nat) {p : Nat} (large : 2045 < p) :
    ofParts negative m p = .infinite negative :=
  dif_neg fun valid => Nat.not_lt.mpr valid.2.2 large

theorem ofQuotient_large (negative : Bool) {a d : Nat} (large : 2045 < (a / d).log2 - 52) :
    ofQuotient negative a d = .infinite negative := by
  unfold ofQuotient
  dsimp only
  split
  next => exact ofParts_infinite negative _ (Nat.lt_succ_of_lt large)
  next => exact ofParts_infinite negative _ large

theorem ofQuotient_last (negative : Bool) {a d p : Nat} (same : (a / d).log2 - 52 = p)
    (last : p = 2045) :
    (roundHalfEven a (d <<< p) = 2 ^ 53 ∧ ofQuotient negative a d = .infinite negative) ∨
      (roundHalfEven a (d <<< p) ≠ 2 ^ 53 ∧
        ∃ m p valid, ofQuotient negative a d = .finite negative m p valid) := by
  have within := (binade (a / d)).resolve_left (by omega)
  rw [same] at within
  have bounds := roundHalfEven_bounds a (d <<< p)
  have grid : a / (d <<< p) = a / d / 2 ^ p := by
    rw [Nat.shiftLeft_eq, Nat.div_div_eq_div_mul]
  have positive := Nat.two_pow_pos p
  have low : 2 ^ 52 ≤ a / d / 2 ^ p := (Nat.le_div_iff_mul_le positive).mpr within.2.1
  have high : a / d / 2 ^ p < 2 ^ 53 := (Nat.div_lt_iff_lt_mul positive).mpr within.2.2
  rw [← grid] at low high
  unfold ofQuotient
  dsimp only
  rw [same]
  generalize roundHalfEven a (d <<< p) = m at *
  have power : 1 <<< 53 = 2 ^ 53 := by decide
  by_cases top : m = 2 ^ 53
  · refine .inl ⟨top, ?_⟩
    rw [power, if_pos top]
    exact ofParts_infinite negative _ (by omega)
  · refine .inr ⟨top, m, p, ⟨?_, .inl ?_, Nat.le_of_eq last⟩, ?_⟩
    · omega
    · simp only [Nat.reduceShiftLeft]
      omega
    · rw [if_neg (power ▸ top)]
      exact ofParts_eq negative _

theorem roundHalfEven_eq_top {a e : Nat} (positive : 0 < e) (within : a / (2 * e) < 2 ^ 53) :
    roundHalfEven a (2 * e) = 2 ^ 53 ↔ (2 ^ 54 - 1) * e ≤ a := by
  have whole := Nat.div_add_mod a (2 * e)
  have rest := Nat.mod_lt a (show 0 < 2 * e by omega)
  unfold roundHalfEven
  dsimp only
  generalize a % (2 * e) = r at *
  generalize a / (2 * e) = f at *
  -- Only the odd significand just below can be rounded up to it, and a half goes up from there.
  by_cases below : f = 2 ^ 53 - 1
  · subst below
    split <;> omega
  · have small : 2 * e * f ≤ 2 * e * (2 ^ 53 - 2) := Nat.mul_le_mul_left _ (by omega)
    split <;> omega

theorem ofQuotient_cases (negative : Bool) (a : Nat) {d : Nat} (positive : 0 < d) :
    (overflow * d ≤ a ∧ ofQuotient negative a d = .infinite negative) ∨
      (a < overflow * d ∧ ∃ m p valid, ofQuotient negative a d = .finite negative m p valid) := by
  have fits : a / d * d ≤ a ∧ a < (a / d + 1) * d :=
    ⟨Nat.div_mul_le_self a d, Nat.lt_mul_of_div_lt (Nat.lt_succ_self _) positive⟩
  have within := binade (a / d)
  generalize same : (a / d).log2 - 52 = p at within
  rcases Nat.lt_trichotomy p 2045 with lower | last | higher
  · have small : a / d < 2 ^ (53 + p) := by
      rcases within with ⟨rfl, small⟩ | ⟨-, -, small⟩
      · exact small
      · rwa [Nat.pow_add]
    obtain ⟨m, q, valid, same, -⟩ := exists_ofQuotient negative small (by omega)
    refine .inr ⟨?_, m, q, valid, same⟩
    calc a
      _ < (a / d + 1) * d := fits.2
      _ ≤ 2 ^ (53 + p) * d := Nat.mul_le_mul_right d small
      _ ≤ 2 ^ (53 + 2044) * d := Nat.mul_le_mul_right d (power_le (by decide) (by omega))
      _ ≤ overflow * d := Nat.mul_le_mul_right d (by decide +kernel)
  · have high := (within.resolve_left (by omega)).2.2
    rw [← Nat.div_lt_iff_lt_mul (Nat.two_pow_pos p), Nat.div_div_eq_div_mul] at high
    obtain ⟨k, rfl⟩ : ∃ k, p = k + 1 := ⟨2044, last⟩
    have double : d * 2 ^ (k + 1) = 2 * (d * 2 ^ k) := by
      rw [Nat.pow_succ, Nat.mul_comm _ 2, Nat.mul_left_comm]
    have top := roundHalfEven_eq_top (a := a) (e := d * 2 ^ k)
      (Nat.mul_pos positive (Nat.two_pow_pos k)) (double ▸ high)
    have scaled : (2 ^ 54 - 1) * (d * 2 ^ k) = overflow * d := by
      rw [overflow, Nat.mul_assoc, Nat.mul_comm d, Nat.succ.inj last]
    rw [← double, ← Nat.shiftLeft_eq, scaled] at top
    rcases ofQuotient_last negative same last with ⟨rounded, same⟩ | ⟨rounded, same⟩
    · exact .inl ⟨top.mp rounded, same⟩
    · exact .inr ⟨Nat.lt_of_not_le fun large => rounded (top.mpr large), same⟩
  · have least := (within.resolve_left (by omega)).2.1
    refine .inl ⟨?_, ofQuotient_large negative (same ▸ higher)⟩
    calc overflow * d
      _ ≤ 2 ^ 52 * 2 ^ 2046 * d := Nat.mul_le_mul_right d (by decide +kernel)
      _ ≤ 2 ^ 52 * 2 ^ p * d :=
        Nat.mul_le_mul_right d (Nat.mul_le_mul_left _ (power_le (by decide) higher))
      _ ≤ a / d * d := Nat.mul_le_mul_right d least
      _ ≤ a := fits.1

end Double

namespace Numeral

def scale (n : Numeral) : Int := n.exponent - n.fraction.length

/-- The magnitude is at least the midpoint between the greatest double and the power of two above
it. -/
def Overflows (n : Numeral) : Prop :=
  (2 ^ 1024 - 2 ^ 970) * 10 ^ (-n.scale).toNat ≤
    natural (n.whole ++ n.fraction) * 10 ^ n.scale.toNat

end Numeral

namespace Double

theorem threshold_pos : 0 < 2 ^ 1024 - 2 ^ 970 := by decide +kernel

theorem threshold_le {n : Nat} (large : 400 ≤ n) : 2 ^ 1024 - 2 ^ 970 ≤ 10 ^ n := by
  calc 2 ^ 1024 - 2 ^ 970
    _ ≤ 10 ^ 400 := by decide +kernel
    _ ≤ 10 ^ n := power_le (by decide) large

theorem ofDecimal_cases (negative : Bool) (digits : Nat) (exponent : Int) :
    ((2 ^ 1024 - 2 ^ 970) * 10 ^ (-exponent).toNat ≤ digits * 10 ^ exponent.toNat ∧
        ofDecimal negative digits exponent = .infinite negative) ∨
      (digits * 10 ^ exponent.toNat < (2 ^ 1024 - 2 ^ 970) * 10 ^ (-exponent).toNat ∧
        ∃ m p valid, ofDecimal negative digits exponent = .finite negative m p valid) := by
  have positive := threshold_pos
  have bound := @threshold_le
  have scaled (n : Nat) : overflow * n = (2 ^ 1024 - 2 ^ 970) * n * unit := by
    rw [overflow_eq, Nat.mul_right_comm]
  generalize 2 ^ 1024 - 2 ^ 970 = threshold at *
  unfold ofDecimal
  by_cases none : digits = 0
  · rw [if_pos none, none, Nat.zero_mul]
    exact .inr ⟨Nat.mul_pos positive (Nat.pow_pos (by decide)), _, _, _, rfl⟩
  rw [if_neg none]
  by_cases huge : 400 < exponent
  · rw [if_pos huge, show (-exponent).toNat = 0 by omega, Nat.pow_zero, Nat.mul_one]
    refine .inl ⟨?_, rfl⟩
    calc threshold
      _ ≤ 10 ^ exponent.toNat := bound (by omega)
      _ ≤ digits * 10 ^ exponent.toNat := Nat.le_mul_of_pos_left _ (Nat.pos_of_ne_zero none)
  rw [if_neg huge]
  by_cases tiny : exponent < -(400 + digits.log2)
  · rw [if_pos tiny, show exponent.toNat = 0 by omega, Nat.pow_zero, Nat.mul_one]
    refine .inr ⟨?_, _, _, _, rfl⟩
    calc digits
      _ < 2 ^ (digits.log2 + 1) := Nat.lt_log2_self
      _ ≤ 10 ^ (digits.log2 + 1) := Nat.pow_le_pow_left (by decide) _
      _ ≤ 10 ^ (-exponent).toNat := Nat.pow_le_pow_right (by decide) (by omega)
      _ ≤ threshold * 10 ^ (-exponent).toNat := Nat.le_mul_of_pos_left _ positive
  rw [if_neg tiny]
  by_cases whole : 0 ≤ exponent
  · rw [if_pos whole, show (-exponent).toNat = 0 by omega, Nat.pow_zero]
    have cases := ofQuotient_cases negative (digits * Nat.pow 10 exponent.toNat * unit) Nat.one_pos
    rw [scaled, Nat.mul_le_mul_right_iff unit_pos, Nat.mul_lt_mul_right unit_pos] at cases
    exact cases
  · rw [if_neg whole, show exponent.toNat = 0 by omega, Nat.pow_zero, Nat.mul_one]
    have cases := ofQuotient_cases negative (digits * unit)
      (d := Nat.pow 10 (-exponent).toNat) (Nat.pow_pos (by decide))
    rw [scaled, Nat.mul_le_mul_right_iff unit_pos, Nat.mul_lt_mul_right unit_pos] at cases
    exact cases

end Double

namespace Numeral

theorem double_cases (n : Numeral) :
    (n.Overflows ∧ n.double = .infinite n.negative) ∨
      (¬ n.Overflows ∧ ∃ m p valid, n.double = .finite n.negative m p valid) := by
  have cases := Double.ofDecimal_cases n.negative (natural (n.whole ++ n.fraction)) n.scale
  rwa [← Nat.not_le] at cases

theorem double_ne_nan (n : Numeral) : n.double ≠ .nan := by
  rcases n.double_cases with ⟨-, same⟩ | ⟨-, m, p, valid, same⟩ <;> rw [same] <;> nofun

theorem isFinite_double (n : Numeral) : n.double.isFinite = false ↔ n.Overflows := by
  rcases n.double_cases with ⟨overflows, same⟩ | ⟨within, m, p, valid, same⟩
  · simp [same, Double.isFinite, overflows]
  · simp [same, Double.isFinite, within]

end Numeral

end RequestLine
