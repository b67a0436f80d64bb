import RequestLine.Proofs.Json.Numbers
import RequestLine.Proofs.Json.Strings
import RequestLine.Proofs.Text.Cut
import RequestLine.Proofs.Text.Join

set_option autoImplicit false

namespace RequestLine.Json.Reader

theorem word?_digit {c : Char} (digit : c.isDigit = true) (dialect : Dialect) (negative : Bool)
    (rest : Text) : word? dialect (Double.withSign negative (.char c :: rest)) = none := by
  have other (d : Char) (letter : d.isDigit = false) : d ≠ c := by
    rintro rfl
    simp [letter] at digit
  have n := other 'n' (by decide)
  have t := other 't' (by decide)
  have f := other 'f' (by decide)
  have N := other 'N' (by decide)
  have I := other 'I' (by decide)
  have minus := other '-' (by decide)
  cases dialect <;> cases negative <;>
    simp [word?, words, constants, Text.ofString, List.isPrefixOf?, Double.withSign, n, t, f, N, I,
      minus]

theorem front_text {f : Numeral.Form} (sound : f.Sound) (rest : Text) :
    ∃ c after, f.text ++ rest = .char c :: after ∧ (c.isDigit = true ∨ c = '-') := by
  obtain ⟨c, after, digit, -, written⟩ := sound.text_append rest
  cases sign : f.negative with
  | true => exact ⟨'-', _, by rw [written, sign]; rfl, .inr rfl⟩
  | false => exact ⟨c, _, by rw [written, sign]; rfl, .inl digit⟩

theorem scalar_withSign {c : Char} (digit : c.isDigit = true) (dialect : Dialect)
    (negative : Bool) (rest : Text) :
    scalar dialect (Double.withSign negative (.char c :: rest)) =
      number (Double.withSign negative (.char c :: rest)) := by
  have unquoted : c ≠ '"' := by
    rintro rfl
    contradiction
  unfold scalar
  split
  next same =>
    cases sign : negative <;> simp [Double.withSign, sign, unquoted] at same
  next => rw [word?_digit digit]

theorem skip_eq_self {c : Char} (solid : isBlank (.char c) = false) (rest : Text) :
    skip (.char c :: rest) = .char c :: rest := by
  simp [skip, solid]

def Closes (close : Char) : Prop := close = ']' ∨ close = '\x7d'

instance (close : Char) : Decidable (Closes close) := inferInstanceAs (Decidable (_ ∨ _))

theorem Closes.ends {close : Char} (closes : Closes close) (rest : Text) :
    Ends (.char close :: rest) := by
  rcases closes with rfl | rfl <;> exact ends_char (by decide) (by decide)

theorem Closes.solid {close : Char} (closes : Closes close) :
    isBlank (.char close) = false ∧ close ≠ ',' := by
  rcases closes with rfl | rfl <;> decide

def Visible (c : Char) : Prop := 0x20 < c.toNat ∧ c.toNat < 0x7F

instance (c : Char) : Decidable (Visible c) := inferInstanceAs (Decidable (_ ∧ _))

theorem Visible.notBlank {c : Char} (visible : Visible c) : (Symbol.char c).isBlank = false := by
  obtain ⟨low, high⟩ := visible
  refine Bool.eq_false_iff.mpr fun blank => ?_
  have code : (Symbol.char c).code = c.toNat := rfl
  simp only [Symbol.isBlank, Symbol.isSpace, Bool.or_eq_true, Bool.and_eq_true, decide_eq_true_eq,
    beq_iff_eq, code] at blank
  omega

theorem Visible.solid {c : Char} (visible : Visible c) : isBlank (.char c) = false := by
  refine Bool.eq_false_iff.mpr fun blank => ?_
  simp only [isBlank, Bool.or_eq_true, beq_iff_eq, Symbol.char.injEq] at blank
  rcases blank with ((rfl | rfl) | rfl) | rfl <;> exact absurd visible (by decide)

theorem visible_numeric {c : Char} (numeric : c.isDigit = true ∨ c ∈ ['.', 'e', '+', '-']) :
    Visible c ∧ ¬ Closes c ∧ c ≠ '|' := by
  rcases numeric with digit | mark
  · have bounds := Char.isDigit_iff_toNat.mp digit
    refine ⟨⟨Nat.lt_of_lt_of_le (by decide) bounds.1, Nat.lt_of_le_of_lt bounds.2 (by decide)⟩,
      ?_, ?_⟩
    · rintro (rfl | rfl) <;> contradiction
    · rintro rfl
      contradiction
  · simp only [List.mem_cons, List.not_mem_nil, or_false] at mark
    rcases mark with rfl | rfl | rfl | rfl <;> decide

def Opens (t : Text) : Prop := ∃ c rest, t = .char c :: rest ∧ Visible c ∧ ¬ Closes c

theorem value_eq_scalar {c : Char} (arr : c ≠ '[') (obj : c ≠ '\x7b') (dialect : Dialect)
    (fuel depth : Nat) (rest : Text) :
    value dialect fuel depth (.char c :: rest) = scalar dialect (.char c :: rest) := by
  cases depth <;> simp [value, arr, obj]

theorem value_word {w : String × Json} (word : w ∈ words) (dialect : Dialect) (fuel depth : Nat)
    (rest : Text) : value dialect fuel depth (Text.ofString w.1 ++ rest) = .ok (w.2, rest) := by
  simp only [words, List.mem_cons, List.not_mem_nil, or_false] at word
  rcases word with rfl | rfl | rfl <;> cases depth <;> rfl

theorem value_withSign {c : Char} (digit : c.isDigit = true) (dialect : Dialect)
    (fuel depth : Nat) (negative : Bool) (rest : Text) :
    value dialect fuel depth (Double.withSign negative (.char c :: rest)) =
      number (Double.withSign negative (.char c :: rest)) := by
  have other {d : Char} (mark : d.isDigit = false) : c ≠ d := by
    rintro rfl
    rw [digit] at mark
    contradiction
  rw [← scalar_withSign digit dialect]
  cases negative with
  | true => exact value_eq_scalar (by decide) (by decide) dialect fuel depth _
  | false => exact value_eq_scalar (other (by decide)) (other (by decide)) dialect fuel depth _

theorem value_number {f : Numeral.Form} (sound : f.Sound) (dialect : Dialect) (fuel depth : Nat)
    (rest : Text) :
    value dialect fuel depth (f.text ++ rest) = number (f.text ++ rest) := by
  obtain ⟨c, after, digit, -, written⟩ := sound.text_append rest
  rw [written, value_withSign digit]

theorem value_written {n : Numeral} {t : Text} (written : n.Written t) (dialect : Dialect)
    (fuel depth : Nat) {rest : Text} (ends : Ends rest) :
    value dialect fuel depth (t ++ rest) = .ok (.float n.double, rest) := by
  obtain ⟨c, after, digit, front⟩ := written.exists_digit
  rw [← number_written written ends, front, value_withSign digit]

theorem visible_numeral {s : Symbol} (h : Numeral.IsNumeral s) :
    ∃ c, s = .char c ∧ Visible c ∧ c ≠ '|' := by
  rcases h with ⟨c, rfl, numeric⟩ | rfl
  · exact ⟨c, rfl, (visible_numeric numeric).1, (visible_numeric numeric).2.2⟩
  · exact ⟨'E', rfl, by decide, by decide⟩

theorem opens_number {f : Numeral.Form} (sound : f.Sound) : Opens f.text := by
  obtain ⟨c, rest, front, -⟩ := front_text sound []
  rw [List.append_nil] at front
  obtain ⟨_, same, numeric⟩ := sound.isNumeric (.char c) (by simp [front])
  cases same
  exact ⟨c, rest, front, (visible_numeric numeric).1, (visible_numeric numeric).2.1⟩

end RequestLine.Json.Reader

namespace RequestLine.Numeral.Written

open Json.Reader

variable {n : Numeral} {t : Text}

theorem strip_eq (h : n.Written t) : t.strip = t := by
  have solid (s : Symbol) (member : s ∈ t) : s.isBlank = false := by
    obtain ⟨c, rfl, visible, -⟩ := visible_numeral (h.isNumeral s member)
    exact visible.notBlank
  exact Text.strip_eq_self (fun s front => solid s (List.mem_of_mem_head? front))
    (fun s back => solid s (List.mem_of_mem_getLast? back))

theorem bar_notMem (h : n.Written t) : Symbol.char '|' ∉ t := by
  intro member
  obtain ⟨c, same, -, other⟩ := visible_numeral (h.isNumeral _ member)
  exact other (Symbol.char.inj same).symm

theorem read_eq [Runtime] (h : n.Written t) (dialect : Json.Dialect) :
    Json.read dialect t = .ok (.float n.double) := by
  have front : skip t = t := by
    obtain ⟨c, after, digit, same⟩ := h.exists_digit
    have visible := (visible_numeric (.inl digit)).1
    rw [← t.append_nil, same]
    cases n.negative
    · exact skip_eq_self visible.solid _
    · exact skip_eq_self (by decide) _
  have read := value_written h dialect t.length Runtime.nesting ends_nil
  rw [List.append_nil] at read
  rw [Json.read, front, read]
  rfl

end RequestLine.Numeral.Written
