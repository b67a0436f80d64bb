import RequestLine.Json.Reader
import RequestLine.Json.Writer
import RequestLine.Proofs.Double.Layout
import RequestLine.Proofs.Double.Written

set_option autoImplicit false

namespace RequestLine.Json.Reader

open Numeral (Form)

def Ends (t : Text) : Prop :=
  ∀ s, t.head? = some s → s.isDigit = false ∧ s ≠ .char '.' ∧ s ≠ .char 'e' ∧ s ≠ .char 'E'

theorem Ends.noDigit {t : Text} (ends : Ends t) : NoDigit t := fun s h => (ends s h).1

theorem ends_nil : Ends [] := fun _ h => by contradiction

theorem ends_char {c : Char} {rest : Text} (digit : c.isDigit = false)
    (other : c ≠ '.' ∧ c ≠ 'e' ∧ c ≠ 'E') : Ends (.char c :: rest) := by
  intro s h
  cases h
  simpa [Symbol.isDigit, digit] using other

theorem wholePart_digits {whole : List Char} (each : AreDigits whole) (present : whole ≠ [])
    (leading : whole = ['0'] ∨ whole.head? ≠ some '0') {rest : Text} (ends : NoDigit rest) :
    wholePart (whole.map .char ++ rest) = (whole, rest) := by
  rcases leading with zero | other
  · rw [zero]
    rfl
  · obtain ⟨c, cs, front⟩ := List.exists_cons_of_ne_nil present
    have run := Text.digits_append each ends
    have after := Text.afterDigits_append each ends
    rw [front] at other run after ⊢
    unfold wholePart
    split
    next same =>
      simp only [List.map_cons, List.cons_append, List.cons.injEq, Symbol.char.injEq] at same
      simp [same.1] at other
    next => rw [run, after]

theorem exponentPart_none {rest : Text} (ends : Ends rest) : exponentPart rest = none := by
  unfold exponentPart
  split
  next c after =>
    have first := ends _ rfl
    refine if_neg fun h => ?_
    rcases h.1 with rfl | rfl
    · exact first.2.2.1 rfl
    · exact first.2.2.2 rfl
  next => rfl

theorem exponentPart_some {power : Text} {e : Int} (h : Numeral.IsExponent power e) {rest : Text}
    (ends : NoDigit rest) : exponentPart (power ++ rest) = some (e, rest) := by
  cases h with
  | mk letter sign each present =>
    simp only [List.cons_append, List.append_assoc, exponentPart,
      Text.sign_mark_append sign each present, Text.digits_append each ends,
      Text.afterDigits_append each ends]
    simp [letter, present]

theorem fractionPart_none {rest : Text} (other : rest.head? ≠ some (.char '.')) :
    fractionPart rest = none := by
  unfold fractionPart
  split
  next => contradiction
  next => rfl

theorem fractionPart_some {fraction : List Char} (each : AreDigits fraction)
    (present : fraction ≠ []) {rest : Text} (ends : NoDigit rest) :
    fractionPart (Form.fractionText fraction ++ rest) = some (fraction, rest) := by
  simp [Form.fractionText, present, fractionPart, Text.digits_append each ends,
    Text.afterDigits_append each ends]

def magnitude (negative : Bool) (t : Text) : Read Json :=
  let (whole, t) := wholePart t
  if whole.isEmpty then .error .malformed
  else
    match fractionPart t with
    | some (fraction, t) =>
      let (exponent, t) := (exponentPart t).getD (0, t)
      .ok (.float (Numeral.double ⟨negative, whole, fraction, exponent⟩), t)
    | none =>
      match exponentPart t with
      | some (exponent, t) => .ok (.float (Numeral.double ⟨negative, whole, [], exponent⟩), t)
      | none =>
        if Text.maxDigits < whole.length then .error .malformed
        else .ok (.int (Double.signed negative (Numeral.natural whole)), t)

theorem number_withSign {c : Char} (digit : c.isDigit = true) (negative : Bool) (rest : Text) :
    number (Double.withSign negative (.char c :: rest)) = magnitude negative (.char c :: rest) := by
  cases negative with
  | true => rfl
  | false =>
    have other : c ≠ '-' := by
      rintro rfl
      contradiction
    unfold number
    simp only [Double.withSign, Bool.false_eq_true, if_false]
    split
    next same => simp [other] at same
    next => rfl

theorem number_text {f : Form} (sound : f.Sound) (rest : Text) :
    number (f.text ++ rest) = magnitude f.negative (f.unsigned ++ rest) := by
  obtain ⟨c, after, digit, front, written⟩ := sound.text_append rest
  rw [written, number_withSign digit, front]

theorem magnitude_written {n : Numeral} (whole : AreDigits n.whole) (present : n.whole ≠ [])
    (leading : n.whole = ['0'] ∨ n.whole.head? ≠ some '0') (fraction : AreDigits n.fraction)
    {power : Text} (isPower : n.IsPower power) {rest : Text} (ends : Ends rest) :
    magnitude n.negative
        (n.whole.map .char ++ (Form.fractionText n.fraction ++ (power ++ rest))) =
      .ok (.float n.double, rest) := by
  have behind := isPower.noDigit ends.noDigit
  have front := wholePart_digits whole present leading
    (Form.noDigit_fractionText n.fraction behind)
  rw [magnitude, front]
  simp only [List.isEmpty_iff, present, if_false]
  by_cases point : n.fraction = []
  · cases isPower with
    | absent some => contradiction
    | present exponent =>
      rw [point, Form.fractionText, if_pos rfl, List.nil_append,
        fractionPart_none (exponent.front rest).2]
      simp only [exponentPart_some exponent ends.noDigit]
      rw [← point]
  · rw [fractionPart_some fraction point behind]
    cases isPower with
    | absent some zero =>
      simp only [List.nil_append, exponentPart_none ends, Option.getD_none]
      rw [← zero]
    | present exponent =>
      simp only [exponentPart_some exponent ends.noDigit, Option.getD_some]

theorem number_written {n : Numeral} {t : Text} (written : n.Written t) {rest : Text}
    (ends : Ends rest) : number (t ++ rest) = .ok (.float n.double, rest) := by
  obtain ⟨c, after, digit, front⟩ := written.exists_digit
  obtain ⟨power, isPower, rfl⟩ := written.text
  have read := magnitude_written written.whole written.present written.leading written.fraction
    isPower ends
  have same := front rest
  rw [same, number_withSign digit, ← read]
  congr 1
  cases sign : n.negative <;> simp_all [Double.withSign]

theorem number_fractional {f : Form} (sound : f.Sound)
    (fractional : f.fraction ≠ [] ∨ f.exponent ≠ none) {rest : Text} (ends : Ends rest) :
    number (f.text ++ rest) = .ok (.float f.value.double, rest) :=
  number_written (sound.written fractional) ends

theorem number_integer {f : Form} (sound : f.Sound) (point : f.fraction = [])
    (power : f.exponent = none) (short : f.whole.length ≤ Text.maxDigits) {rest : Text}
    (ends : Ends rest) :
    number (f.text ++ rest) =
      .ok (.int (Double.signed f.negative (Numeral.natural f.whole)), rest) := by
  have whole := wholePart_digits sound.whole sound.present sound.leading ends.noDigit
  have fraction := fractionPart_none fun h => (ends _ h).2.1 rfl
  rw [number_text sound, Form.unsigned, point, power, Form.fractionText, if_pos rfl,
    Form.exponentText, List.append_nil, List.append_nil, magnitude, whole]
  simp only [List.isEmpty_iff, sound.present, if_false, fraction, exponentPart_none ends,
    Nat.not_lt.mpr short]

def formOfInt (n : Int) : Form where
  negative := decide (n < 0)
  whole := Nat.toDigits 10 n.natAbs

theorem text_formOfInt (n : Int) : (formOfInt n).text = Text.ofInt n := by
  simp [Form.text, Form.unsigned, formOfInt, Form.fractionText, Form.exponentText,
    Double.withSign, Text.ofInt, Text.ofNat]

theorem sound_formOfInt (n : Int) : (formOfInt n).Sound where
  whole := areDigits_toDigits _
  present := Nat.toDigits_ne_nil
  leading := by
    rcases Nat.eq_zero_or_pos n.natAbs with zero | positive
    · exact .inl (by rw [formOfInt, zero]; rfl)
    · exact .inr (head?_toDigits positive)
  fraction := nofun
  exponent := nofun

theorem number_ofInt {n : Int} (short : n.natAbs < Nat.pow 10 Text.maxDigits) {rest : Text}
    (ends : Ends rest) : number (Text.ofInt n ++ rest) = .ok (.int n, rest) := by
  rw [Numeral.pow_ten] at short
  have length : (formOfInt n).whole.length ≤ Text.maxDigits :=
    (Nat.length_toDigits_le_iff (by decide) (by decide)).mpr short
  have read := number_integer (sound_formOfInt n) rfl rfl length ends
  have value : Double.signed (decide (n < 0)) n.natAbs = n := by
    unfold Double.signed
    by_cases negative : n < 0
    · rw [if_pos (decide_eq_true negative)]
      omega
    · rw [if_neg (by simpa using negative)]
      omega
  rw [text_formOfInt, formOfInt, Numeral.natural_toDigits, value] at read
  exact read

end RequestLine.Json.Reader

namespace RequestLine

def Double.ReadsBack (x : Double) : Prop :=
  Double.ofText? (x.text Json.Writer.doubleNames) = some x

theorem Json.Reader.number_double {x : Double} (finite : x.isFinite = true) (back : x.ReadsBack)
    {rest : Text} (ends : Ends rest) :
    number (x.text Writer.doubleNames ++ rest) = .ok (.float x, rest) := by
  obtain ⟨f, sound, fractional, written⟩ := Double.exists_form Writer.doubleNames finite
  rw [Double.ReadsBack, ← written, Double.ofText?_text sound] at back
  rw [← written, number_fractional sound fractional ends, Option.some.inj back]

end RequestLine
