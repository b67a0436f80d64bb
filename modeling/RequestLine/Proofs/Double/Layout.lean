import RequestLine.Proofs.Double.Form

set_option autoImplicit false

namespace RequestLine.Double

open Numeral (Form)

theorem toDigits_ne_nil (n : Nat) : Nat.toDigits 10 n ≠ [] := Nat.toDigits_ne_nil

def formOf (negative : Bool) (d : Decimal) : Form :=
  let digits := Nat.toDigits 10 d.digits
  let point := digits.length + d.exponent
  let zeros (n : Int) := List.replicate n.toNat '0'
  if -4 < point ∧ point ≤ 16 then
    if point ≤ 0 then { negative, whole := ['0'], fraction := zeros (-point) ++ digits }
    else if digits.length ≤ point then
      { negative, whole := digits ++ zeros (point - digits.length), fraction := ['0'] }
    else { negative, whole := digits.take point.toNat, fraction := digits.drop point.toNat }
  else
    let amount := Nat.toDigits 10 (point - 1).natAbs
    { negative, whole := digits.take 1, fraction := digits.drop 1
      exponent := some (decide (point - 1 < 0), zeros (2 - amount.length) ++ amount) }

theorem unsigned_formOf (negative : Bool) (d : Decimal) :
    (formOf negative d).unsigned = layout d := by
  obtain ⟨c, cs, some⟩ := List.exists_cons_of_ne_nil (toDigits_ne_nil d.digits)
  have single : ((c :: cs).length : Int) = 1 ↔ cs = [] := by
    rw [List.length_cons, ← List.length_eq_zero_iff]
    omega
  simp only [formOf, layout, Text.ofNat, List.length_map, some]
  split
  next =>
    split
    next => simp [Form.unsigned, Form.fractionText, Form.exponentText, Text.ofString]
    next =>
      split
      next => simp [Form.unsigned, Form.fractionText, Form.exponentText, Text.ofString]
      next inside =>
        have more : (c :: cs).drop ((c :: cs).length + d.exponent).toNat ≠ [] := by
          rw [ne_eq, List.drop_eq_nil_iff]
          omega
        simp only [Form.unsigned, Form.fractionText, Form.exponentText, if_neg more]
        simp
  next =>
    simp only [Form.unsigned, Form.fractionText, Form.exponentText, single]
    simp [apply_ite Symbol.char]

theorem text_formOf (negative : Bool) (d : Decimal) :
    (formOf negative d).text = withSign negative (layout d) := by
  have sign : (formOf negative d).negative = negative := by
    simp only [formOf]
    split
    · split
      · rfl
      · split <;> rfl
    · rfl
  rw [Form.text, sign, unsigned_formOf]

theorem sound_formOf (negative : Bool) {d : Decimal} (positive : 0 < d.digits) :
    (formOf negative d).Sound := by
  have digits := areDigits_toDigits d.digits
  have leading := head?_toDigits positive
  obtain ⟨c, cs, front⟩ := List.exists_cons_of_ne_nil (toDigits_ne_nil d.digits)
  have first (n : Nat) : AreDigits ((Nat.toDigits 10 d.digits).take n) := fun c member =>
    digits c (List.mem_of_mem_take member)
  have later (n : Nat) : AreDigits ((Nat.toDigits 10 d.digits).drop n) := fun c member =>
    digits c (List.mem_of_mem_drop member)
  have zero : AreDigits ['0'] := areDigits_replicate 1
  simp only [formOf]
  split
  next =>
    split
    next =>
      -- A zero, the point and perhaps more zeros before the digits.
      exact {
        whole := zero
        present := by simp
        leading := .inl rfl
        fraction := areDigits_append.mpr ⟨areDigits_replicate _, digits⟩
        exponent := nofun }
    next positive =>
      split
      next =>
        -- The digits, perhaps zeros behind them, and a fraction of one zero.
        exact {
          whole := areDigits_append.mpr ⟨digits, areDigits_replicate _⟩
          present := by simp [front]
          leading := .inr (by simpa [front] using leading)
          fraction := zero
          exponent := nofun }
      next =>
        -- The point stands between two digits.
        obtain ⟨n, point⟩ := Nat.exists_eq_add_one_of_ne_zero
          (show ((Nat.toDigits 10 d.digits).length + d.exponent).toNat ≠ 0 by omega)
        rw [point]
        exact {
          whole := first _
          present := by simp [front]
          leading := .inr (by simpa [front] using leading)
          fraction := later _
          exponent := nofun }
  next =>
    exact {
      whole := first _
      present := by simp [front]
      leading := .inr (by simpa [front] using leading)
      fraction := later _
      exponent := fun e h => by
        cases h
        exact ⟨areDigits_append.mpr ⟨areDigits_replicate _, areDigits_toDigits _⟩,
          by simp [Nat.toDigits_ne_nil]⟩ }

theorem fractional_formOf (negative : Bool) (d : Decimal) :
    (formOf negative d).fraction ≠ [] ∨ (formOf negative d).exponent ≠ none := by
  simp only [formOf]
  split
  next =>
    refine .inl ?_
    split
    next => simp [Nat.toDigits_ne_nil]
    next =>
      split
      next => simp
      next =>
        rw [ne_eq, List.drop_eq_nil_iff]
        omega
  next => exact .inr (by simp)

theorem onGrid_pos {r : Rounding} (low : 0 < r.low) {exponent : Int} {c : Nat}
    (h : r.onGrid exponent = some c) : 0 < c := by
  unfold Rounding.onGrid at h
  extract_lets step scale value below above holds down up at h
  have scaled : 0 < r.low * scale := Nat.mul_pos low (by
    unfold scale
    split
    · exact Nat.one_pos
    · exact Nat.pow_pos (by decide))
  -- The lower midpoint is positive, so zero is not near enough.
  have reached (c : Nat) (near : holds c = true) : 0 < c := by
    have : r.low * scale ≤ c * step := by
      unfold holds at near
      split at near <;> simp only [Bool.and_eq_true, decide_eq_true_eq] at near <;> omega
    exact Nat.pos_of_ne_zero (by rintro rfl; omega)
  split at h
  next near =>
    exact Option.some.inj h ▸ reached below (Bool.and_eq_true_iff.mp near).1
  next =>
    split at h
    next => exact Option.some.inj h ▸ Nat.succ_pos below
    next => contradiction

theorem shortest_digits {r : Rounding} (low : 0 < r.low) :
    0 < r.shortest.digits ∨ r.shortest = ⟨0, 0⟩ := by
  simp only [Rounding.shortest]
  cases found : (List.range 17).findSome? fun i =>
      (r.onGrid (r.magnitude - (i + 1 : Nat))).map fun c =>
        if c = Nat.pow 10 (i + 1) then (⟨1, r.magnitude⟩ : Decimal)
        else ⟨c, r.magnitude - (i + 1 : Nat)⟩ with
  | none => exact .inr rfl
  | some d =>
    refine .inl ?_
    obtain ⟨i, -, same⟩ := List.exists_of_findSome?_eq_some found
    obtain ⟨c, onGrid, rfl⟩ := Option.map_eq_some_iff.mp same
    rw [Option.getD_some]
    split
    · exact Nat.one_pos
    · exact onGrid_pos low onGrid

theorem exists_form (names : Names) {x : Double} (finite : x.isFinite = true) :
    ∃ f : Form, f.Sound ∧ (f.fraction ≠ [] ∨ f.exponent ≠ none) ∧ f.text = x.text names := by
  cases x with
  | finite negative m p valid =>
    have zero : Form.Sound ⟨negative, ['0'], ['0'], none⟩ :=
      ⟨areDigits_replicate 1, by simp, .inl rfl, areDigits_replicate 1, nofun⟩
    by_cases none : m = 0
    · exact ⟨_, zero, .inl (by simp), by subst none; rfl⟩
    · have low : 0 < (rounding m p).low := by
        rw [rounding, Nat.shiftLeft_eq]
        refine Nat.mul_pos ?_ (Nat.two_pow_pos p)
        split <;> omega
      rcases shortest_digits low with positive | same
      · refine ⟨_, sound_formOf negative positive, fractional_formOf negative _, ?_⟩
        rw [text_formOf, text, magnitudeText, if_neg none]
      · refine ⟨_, zero, .inl (by simp), ?_⟩
        rw [text, magnitudeText, if_neg none, same]
        rfl
  | infinite negative => contradiction
  | nan => contradiction

end RequestLine.Double
