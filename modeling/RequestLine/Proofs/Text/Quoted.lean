import RequestLine.Proofs.Digits
import RequestLine.Proofs.Text.Join
import RequestLine.Text.Printable

set_option autoImplicit false

namespace RequestLine

namespace Symbol

def IsControl (s : Symbol) : Prop := s.code ≤ 0x1F ∨ 0x7F ≤ s.code ∧ s.code ≤ 0x9F

instance (s : Symbol) : Decidable s.IsControl := inferInstanceAs (Decidable (_ ∨ _))

/-- What a line may hold. -/
structure OnLine (s : Symbol) : Prop where
  uncontrolled : ¬ s.IsControl
  paired : s.isLone = false

instance (s : Symbol) : Decidable s.OnLine :=
  decidable_of_iff (¬ s.IsControl ∧ s.isLone = false) ⟨fun h => ⟨h.1, h.2⟩, fun h => ⟨h.1, h.2⟩⟩

theorem isPrintable_eq_false {first last : Nat} (run : (first, last) ∈ hiddenRanges) {s : Symbol}
    (low : first ≤ s.code) (high : s.code ≤ last) : s.isPrintable = false := by
  rw [isPrintable, Bool.not_eq_false', List.any_eq_true]
  exact ⟨_, run, by simp [low, high]⟩

theorem onLine_of_isPrintable {s : Symbol} (printable : s.isPrintable = true) : s.OnLine := by
  have shown (first last : Nat) (run : (first, last) ∈ hiddenRanges) :
      ¬ (first ≤ s.code ∧ s.code ≤ last) := fun ⟨low, high⟩ =>
    Bool.eq_false_iff.mp (isPrintable_eq_false run low high) printable
  constructor
  case uncontrolled =>
    rintro (low | ⟨middle, high⟩)
    · exact shown 0 0x1F (by decide +kernel) ⟨Nat.zero_le _, low⟩
    · exact shown 0x7F 0xA0 (by decide +kernel) ⟨middle, by omega⟩
  case paired =>
    cases s with
    | char c => rfl
    | lone half =>
      have bound := half.isLt
      refine absurd ?_ (shown 0xD7FC 0xF8FF (by decide +kernel))
      simp only [code]
      omega

theorem onLine_char {c : Char} (low : 0x20 ≤ c.toNat) (high : c.toNat < 0x7F) :
    OnLine (.char c) := by
  refine ⟨?_, rfl⟩
  simp only [IsControl, code]
  omega

end Symbol

namespace Hex

theorem onLine_lowerDigit {n : Nat} (bound : n < 16) : (Symbol.char (lowerDigit n)).OnLine := by
  have all : ∀ n < 16, (Symbol.char (lowerDigit n)).OnLine := by decide
  exact all n bound

theorem onLine_lower (width n : Nat) : ∀ s ∈ lower width n, s.OnLine := by
  rw [lower, List.forall_mem_map]
  induction width generalizing n with
  | zero => simp [digits]
  | succ width ih =>
    rw [digits, List.forall_mem_append, List.forall_mem_singleton]
    exact ⟨ih (n / 16), onLine_lowerDigit (Nat.mod_lt n (by decide))⟩

end Hex

namespace Text

def OnOneLine (t : Text) : Prop := ∀ s ∈ t, s.OnLine

instance (t : Text) : Decidable t.OnOneLine := inferInstanceAs (Decidable (∀ s ∈ t, s.OnLine))

theorem onOneLine_cons {s : Symbol} {t : Text} :
    OnOneLine (s :: t) ↔ s.OnLine ∧ t.OnOneLine := List.forall_mem_cons

theorem onOneLine_append {a b : Text} :
    OnOneLine (a ++ b) ↔ a.OnOneLine ∧ b.OnOneLine := List.forall_mem_append

theorem onOneLine_escapeCode (n : Nat) : (escapeCode n).OnOneLine := by
  have escape (letter : Symbol) (plain : letter.OnLine) (width : Nat) :
      OnOneLine (backslash :: letter :: Hex.lower width n) :=
    onOneLine_cons.mpr ⟨by decide, onOneLine_cons.mpr ⟨plain, Hex.onLine_lower width n⟩⟩
  unfold escapeCode
  split
  · exact escape _ (by decide) 2
  split
  · exact escape _ (by decide) 4
  · exact escape _ (by decide) 8

theorem onOneLine_escapeWithin {mark : Symbol} (plain : mark.OnLine) (s : Symbol) :
    (escapeWithin mark s).OnOneLine := by
  have pair {letter : Symbol} (shown : letter.OnLine) : OnOneLine [backslash, letter] :=
    onOneLine_cons.mpr ⟨by decide, List.forall_mem_singleton.mpr shown⟩
  unfold escapeWithin
  split
  next itself =>
    rcases itself with rfl | rfl
    · exact pair (by decide)
    · exact pair plain
  split
  · exact pair (by decide)
  split
  · exact pair (by decide)
  split
  · exact pair (by decide)
  split
  next printable => exact List.forall_mem_singleton.mpr (Symbol.onLine_of_isPrintable printable)
  next => exact onOneLine_escapeCode s.code

theorem onOneLine_quoted (t : Text) : t.quoted.OnOneLine := by
  have mark : t.quoteMark.OnLine := by
    unfold quoteMark
    split <;> decide
  refine onOneLine_cons.mpr ⟨mark, onOneLine_append.mpr ⟨?_, List.forall_mem_singleton.mpr mark⟩⟩
  exact List.forall_mem_flatMap.mpr fun s _ => onOneLine_escapeWithin mark s

theorem onOneLine_join {between : String} (separator : (ofString between).OnOneLine)
    {parts : List Text} (each : ∀ part ∈ parts, part.OnOneLine) : (join between parts).OnOneLine :=
  forall_mem_join separator each

end Text

end RequestLine
