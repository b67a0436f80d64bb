import Mathlib.Data.List.Basic
import RequestLine.Double.Shortest
import RequestLine.Proofs.Digits

set_option autoImplicit false

namespace RequestLine

namespace Numeral

structure Form where
  negative : Bool
  whole : List Char
  fraction : List Char := []
  exponent : Option (Bool × List Char) := none

namespace Form

def fractionText (fraction : List Char) : Text :=
  if fraction = [] then [] else .char '.' :: fraction.map .char

def exponentText : Option (Bool × List Char) → Text
  | none => []
  | some (negative, digits) =>
    .char 'e' :: .char (if negative then '-' else '+') :: digits.map .char

def unsigned (f : Form) : Text :=
  f.whole.map .char ++ (fractionText f.fraction ++ exponentText f.exponent)

def text (f : Form) : Text := Double.withSign f.negative f.unsigned

def power : Option (Bool × List Char) → Int
  | none => 0
  | some (negative, digits) => Double.signed negative (natural digits)

def value (f : Form) : Numeral := ⟨f.negative, f.whole, f.fraction, power f.exponent⟩

structure Sound (f : Form) : Prop where
  whole : AreDigits f.whole
  present : f.whole ≠ []
  leading : f.whole = ['0'] ∨ f.whole.head? ≠ some '0'
  fraction : AreDigits f.fraction
  exponent : ∀ e, f.exponent = some e → AreDigits e.2 ∧ e.2 ≠ []

theorem Sound.exists_digit {f : Form} (sound : f.Sound) :
    ∃ c rest, f.unsigned = .char c :: rest ∧ c.isDigit = true := by
  obtain ⟨c, cs, front⟩ := List.exists_cons_of_ne_nil sound.present
  exact ⟨c, _, by simp [unsigned, front]; rfl, sound.whole c (by simp [front])⟩

theorem Sound.text_append {f : Form} (sound : f.Sound) (rest : Text) :
    ∃ c after, c.isDigit = true ∧ f.unsigned ++ rest = .char c :: after ∧
      f.text ++ rest = Double.withSign f.negative (.char c :: after) := by
  obtain ⟨c, after, front, digit⟩ := sound.exists_digit
  refine ⟨c, after ++ rest, digit, by rw [front, List.cons_append], ?_⟩
  rw [text, front]
  cases f.negative <;> rfl

def IsNumeric (s : Symbol) : Prop :=
  ∃ c, s = .char c ∧ (c.isDigit = true ∨ c ∈ ['.', 'e', '+', '-'])

theorem isNumeric_digits {cs : List Char} (each : AreDigits cs) :
    ∀ s ∈ cs.map Symbol.char, IsNumeric s :=
  List.forall_mem_map.mpr fun c member => ⟨c, rfl, .inl (each c member)⟩

theorem Sound.isNumeric {f : Form} (sound : f.Sound) : ∀ s ∈ f.text, IsNumeric s := by
  have mark {c : Char} (other : c ∈ ['.', 'e', '+', '-']) : IsNumeric (.char c) :=
    ⟨c, rfl, .inr other⟩
  have fraction : ∀ s ∈ fractionText f.fraction, IsNumeric s := by
    unfold fractionText
    split
    · simp
    · exact List.forall_mem_cons.mpr ⟨mark (by simp), isNumeric_digits sound.fraction⟩
  have exponent : ∀ s ∈ exponentText f.exponent, IsNumeric s := by
    cases power : f.exponent with
    | none => simp [exponentText]
    | some e =>
      have sign : IsNumeric (.char (if e.1 then '-' else '+')) := by
        cases e.1 <;> exact mark (by simp)
      exact List.forall_mem_cons.mpr ⟨mark (by simp),
        List.forall_mem_cons.mpr ⟨sign, isNumeric_digits (sound.exponent e power).1⟩⟩
  have unsigned : ∀ s ∈ f.unsigned, IsNumeric s :=
    List.forall_mem_append.mpr ⟨isNumeric_digits sound.whole,
      List.forall_mem_append.mpr ⟨fraction, exponent⟩⟩
  cases sign : f.negative with
  | true => simpa [text, sign, Double.withSign] using ⟨mark (by simp), unsigned⟩
  | false => simpa [text, sign, Double.withSign] using unsigned

theorem noDigit_fractionText (fraction : List Char) {rest : Text} (ends : NoDigit rest) :
    NoDigit (fractionText fraction ++ rest) := by
  unfold fractionText
  split
  · exact ends
  · intro s h
    cases h
    rfl

theorem noDigit_exponentText (exponent : Option (Bool × List Char)) {rest : Text}
    (ends : NoDigit rest) : NoDigit (exponentText exponent ++ rest) := by
  cases exponent with
  | none => exact ends
  | some e =>
    intro s h
    cases h
    rfl

theorem noDigit_exponentText_only (exponent : Option (Bool × List Char)) :
    NoDigit (exponentText exponent) := by
  simpa using noDigit_exponentText exponent noDigit_nil

end Form

end Numeral

namespace Text

open Numeral (Form)

theorem fractionPart_text {fraction : List Char} {exponent : Option (Bool × List Char)}
    (digits : AreDigits fraction) :
    fractionPart (Form.fractionText fraction ++ Form.exponentText exponent) =
      (fraction, Form.exponentText exponent) := by
  have ends := Form.noDigit_exponentText_only exponent
  by_cases none : fraction = []
  · subst none
    cases exponent <;> rfl
  · simp [Form.fractionText, none, fractionPart, digits_append digits ends,
      afterDigits_append digits ends]

theorem sign_mark (negative : Bool) (t : Text) :
    sign (.char (if negative then '-' else '+') :: t) = (negative, t) := by
  cases negative <;> rfl

theorem sign_withSign {t : Text} {c : Char} {rest : Text} (front : t = .char c :: rest)
    (digit : c.isDigit = true) (negative : Bool) :
    sign (Double.withSign negative t) = (negative, t) := by
  cases negative with
  | true => rfl
  | false =>
    subst front
    unfold Double.withSign sign
    simp only [Bool.false_eq_true, if_false]
    split <;> simp_all [Char.isDigit]

theorem exponentPart_text {exponent : Option (Bool × List Char)}
    (digits : ∀ e, exponent = some e → AreDigits e.2 ∧ e.2 ≠ []) :
    exponentPart (Form.exponentText exponent) = some (Form.power exponent) := by
  cases exponent with
  | none => rfl
  | some e =>
    obtain ⟨negative, ds⟩ := e
    obtain ⟨each, present⟩ := digits _ rfl
    have run : Text.digits (ds.map .char) = ds := by
      simpa using digits_append each noDigit_nil
    have all : (ds.map Symbol.char).all Symbol.isDigit = true := by
      simpa [Symbol.isDigit, AreDigits] using each
    have lower : 'e'.toLower = 'e' := rfl
    rw [Form.exponentText, exponentPart, sign_mark]
    simp [run, all, present, Form.power, lower]

end Text

open Numeral (Form)

theorem toLower_digit {c : Char} (digit : c.isDigit = true) : c.toLower = c := by
  rw [Char.isDigit_iff_toNat] at digit
  refine dif_neg fun upper => ?_
  have : 65 ≤ c.toNat := upper.1
  have : c.toNat ≤ 57 := digit.2
  omega

theorem ofUnsigned?_text {f : Form} (sound : f.Sound) :
    Numeral.ofUnsigned? f.negative f.unsigned = some f.value := by
  have ends : NoDigit (Form.fractionText f.fraction ++ Form.exponentText f.exponent) :=
    Form.noDigit_fractionText _ (Form.noDigit_exponentText_only f.exponent)
  rw [Numeral.ofUnsigned?, Form.unsigned, Text.digits_append sound.whole ends,
    Text.afterDigits_append sound.whole ends, Text.fractionPart_text sound.fraction]
  simp [sound.present, Text.exponentPart_text sound.exponent, Form.value]

theorem Double.ofText?_text {f : Form} (sound : f.Sound) :
    Double.ofText? f.text = some f.value.double := by
  obtain ⟨c, rest, front, digit⟩ := sound.exists_digit
  have first : f.unsigned.lower.head? = some (.char c) := by
    simp [front, Text.lower, toLower_digit digit]
  -- The names begin with a letter.
  have unnamed (name : String) (letter : name.toList.head?.any Char.isDigit = false) :
      f.unsigned.lower ≠ Text.ofString name := by
    intro same
    rw [same, Text.ofString, List.head?_map, Option.map_eq_some_iff] at first
    obtain ⟨d, named, equal⟩ := first
    cases equal
    rw [named] at letter
    exact Bool.noConfusion (digit.symm.trans letter)
  rw [Double.ofText?, Form.text, Text.sign_withSign front digit]
  simp [unnamed "inf" (by decide), unnamed "infinity" (by decide), unnamed "nan" (by decide),
    ofUnsigned?_text sound]

end RequestLine
