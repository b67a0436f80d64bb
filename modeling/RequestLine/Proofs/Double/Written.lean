import RequestLine.Proofs.Double.Form

set_option autoImplicit false

namespace RequestLine.Numeral

def marks : Bool → List Text
  | false => [[], [.char '+']]
  | true => [[.char '-']]

inductive IsExponent : Text → Int → Prop where
  | mk {c : Char} {negative : Bool} {mark : Text} {digits : List Char} (letter : c = 'e' ∨ c = 'E')
      (sign : mark ∈ marks negative) (each : AreDigits digits) (present : digits ≠ []) :
      IsExponent (.char c :: (mark ++ digits.map .char)) (Double.signed negative (natural digits))

inductive IsPower (n : Numeral) : Text → Prop where
  | absent (fraction : n.fraction ≠ []) (zero : n.exponent = 0) : IsPower n []
  | present {t : Text} (exponent : IsExponent t n.exponent) : IsPower n t

structure Written (n : Numeral) (t : Text) : Prop where
  whole : AreDigits n.whole
  present : n.whole ≠ []
  leading : n.whole = ['0'] ∨ n.whole.head? ≠ some '0'
  fraction : AreDigits n.fraction
  text : ∃ power, n.IsPower power ∧ t = Double.withSign n.negative
    (n.whole.map .char ++ (Form.fractionText n.fraction ++ power))

theorem isExponent_exponentText (negative : Bool) {digits : List Char} (each : AreDigits digits)
    (present : digits ≠ []) :
    IsExponent (Form.exponentText (some (negative, digits)))
      (Form.power (some (negative, digits))) := by
  have sign : [Symbol.char (if negative then '-' else '+')] ∈ marks negative := by
    cases negative <;> simp [marks]
  exact .mk (.inl rfl) sign each present

theorem Form.Sound.written {f : Form} (sound : f.Sound)
    (fractional : f.fraction ≠ [] ∨ f.exponent ≠ none) : f.value.Written f.text where
  whole := sound.whole
  present := sound.present
  leading := sound.leading
  fraction := sound.fraction
  text := by
    refine ⟨exponentText f.exponent, ?_, rfl⟩
    cases power : f.exponent with
    | none =>
      exact .absent (fractional.resolve_right (not_not_intro power)) (congrArg Form.power power)
    | some e =>
      obtain ⟨each, present⟩ := sound.exponent e power
      have exponent : f.value.exponent = Form.power (some e) := congrArg Form.power power
      exact .present (exponent ▸ isExponent_exponentText e.1 each present)

theorem IsExponent.front {t : Text} {e : Int} (h : IsExponent t e) (rest : Text) :
    NoDigit (t ++ rest) ∧ (t ++ rest).head? ≠ some (.char '.') := by
  cases h with
  | mk letter =>
    rcases letter with rfl | rfl <;> refine ⟨fun s same => ?_, by simp⟩ <;> cases same <;> rfl

theorem IsPower.noDigit {n : Numeral} {power rest : Text} (h : n.IsPower power)
    (ends : NoDigit rest) : NoDigit (power ++ rest) := by
  cases h with
  | absent => exact ends
  | present exponent => exact (exponent.front rest).1

theorem Written.exists_digit {n : Numeral} {t : Text} (h : n.Written t) :
    ∃ c after, c.isDigit = true ∧
      ∀ rest, t ++ rest = Double.withSign n.negative (.char c :: (after ++ rest)) := by
  obtain ⟨power, -, rfl⟩ := h.text
  obtain ⟨c, cs, front⟩ := List.exists_cons_of_ne_nil h.present
  refine ⟨c, cs.map .char ++ (Form.fractionText n.fraction ++ power), h.whole c (by simp [front]),
    fun rest => ?_⟩
  rw [front]
  cases n.negative <;> simp [Double.withSign]

open Form (IsNumeric isNumeric_digits)

def IsNumeral (s : Symbol) : Prop := IsNumeric s ∨ s = .char 'E'

theorem isNumeral_mark {c : Char} (mark : c ∈ ['.', 'e', '+', '-']) : IsNumeral (.char c) :=
  .inl ⟨c, rfl, .inr mark⟩

theorem isNumeral_digits {cs : List Char} (each : AreDigits cs) :
    ∀ s ∈ cs.map Symbol.char, IsNumeral s :=
  fun s member => .inl (isNumeric_digits each s member)

theorem isNumeral_marks {negative : Bool} {mark : Text} (sign : mark ∈ marks negative) :
    ∀ s ∈ mark, IsNumeral s := by
  cases negative <;> simp only [marks, List.mem_cons, List.not_mem_nil, or_false] at sign
  · rcases sign with rfl | rfl
    · simp
    · exact List.forall_mem_singleton.mpr (isNumeral_mark (by simp))
  · rw [sign]
    exact List.forall_mem_singleton.mpr (isNumeral_mark (by simp))

theorem IsExponent.isNumeral {t : Text} {e : Int} (h : IsExponent t e) : ∀ s ∈ t, IsNumeral s := by
  cases h with
  | mk letter sign each =>
    refine List.forall_mem_cons.mpr
      ⟨?_, List.forall_mem_append.mpr ⟨isNumeral_marks sign, isNumeral_digits each⟩⟩
    rcases letter with rfl | rfl
    · exact isNumeral_mark (by simp)
    · exact .inr rfl

theorem Written.isNumeral {n : Numeral} {t : Text} (h : n.Written t) : ∀ s ∈ t, IsNumeral s := by
  obtain ⟨power, isPower, rfl⟩ := h.text
  have fraction : ∀ s ∈ Form.fractionText n.fraction, IsNumeral s := by
    unfold Form.fractionText
    split
    · simp
    · exact List.forall_mem_cons.mpr ⟨isNumeral_mark (by simp), isNumeral_digits h.fraction⟩
  have exponent : ∀ s ∈ power, IsNumeral s := by
    cases isPower with
    | absent => simp
    | present exponent => exact exponent.isNumeral
  have unsigned := List.forall_mem_append.mpr
    ⟨isNumeral_digits h.whole, List.forall_mem_append.mpr ⟨fraction, exponent⟩⟩
  cases n.negative with
  | true => exact List.forall_mem_cons.mpr ⟨isNumeral_mark (by simp), unsigned⟩
  | false => exact unsigned

end RequestLine.Numeral

namespace RequestLine.Text

open Numeral (marks)

theorem sign_mark_append {negative : Bool} {mark : Text} (sign : mark ∈ marks negative)
    {digits : List Char} (each : AreDigits digits) (present : digits ≠ []) (rest : Text) :
    Text.sign (mark ++ (digits.map .char ++ rest)) = (negative, digits.map .char ++ rest) := by
  cases negative with
  | true =>
    obtain rfl := List.mem_singleton.mp sign
    rfl
  | false =>
    simp only [marks, List.mem_cons, List.not_mem_nil, or_false] at sign
    rcases sign with rfl | rfl
    · obtain ⟨c, cs, rfl⟩ := List.exists_cons_of_ne_nil present
      exact sign_withSign rfl (areDigits_cons.mp each).1 false
    · rfl

theorem exists_mark (t : Text) :
    ∃ mark ∈ marks (Text.sign t).1, t = mark ++ (Text.sign t).2 := by
  unfold Text.sign
  split
  next rest => exact ⟨[.char '-'], by simp [marks], rfl⟩
  next rest => exact ⟨[.char '+'], by simp [marks], rfl⟩
  next => exact ⟨[], by simp [marks], rfl⟩

end RequestLine.Text
