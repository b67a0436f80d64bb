import Mathlib.Data.List.Chain
import RequestLine.Json.Reader
import RequestLine.Json.Writer
import RequestLine.Proofs.Digits

set_option autoImplicit false

namespace RequestLine

namespace Symbol

theorem notSurrogate (c : Char) : c.toNat < 0xD800 ∨ 0xE000 ≤ c.toNat ∧ c.toNat < 0x110000 := by
  rcases c.valid with low | high
  · exact .inl low
  · exact .inr ⟨high.1, high.2⟩

theorem ofCode_code (s : Symbol) : ofCode s.code = s := by
  cases s with
  | char c =>
    have valid := notSurrogate c
    simp [ofCode, code, show ¬ (0xD800 ≤ c.toNat ∧ c.toNat < 0xE000) by omega]
  | lone half =>
    have bound := half.isLt
    simp [ofCode, code, show 0xD800 + half.val < 0xE000 by omega]

theorem code_lt (s : Symbol) : s.code < 0x110000 := by
  cases s with
  | char c =>
    have valid := notSurrogate c
    simp only [code]
    omega
  | lone half =>
    have bound := half.isLt
    simp only [code]
    omega

end Symbol

namespace Surrogate

theorem isHigh_iff {n : Nat} : isHigh n = true ↔ 0xD800 ≤ n ∧ n < 0xDC00 := by
  simp [isHigh]

theorem isLow_iff {n : Nat} : isLow n = true ↔ 0xDC00 ≤ n ∧ n < 0xE000 := by
  simp [isLow]

theorem isHigh_high {n : Nat} (double : 0x10000 ≤ n) (bound : n < 0x110000) :
    isHigh (high n) = true := by
  rw [isHigh_iff, high]
  omega

theorem isLow_low (n : Nat) : isLow (low n) = true := by
  rw [isLow_iff, low]
  omega

theorem isHigh_low (n : Nat) : isHigh (low n) = false := by
  rw [← Bool.not_eq_true, isHigh_iff, low]
  omega

theorem join_high_low {n : Nat} (double : 0x10000 ≤ n) : join (high n) (low n) = n := by
  unfold join high low
  have whole := Nat.div_add_mod (n - 0x10000) 0x400
  generalize (n - 0x10000) / 0x400 = q at *
  generalize (n - 0x10000) % 0x400 = r at *
  omega

end Surrogate

namespace Json

def units (s : Symbol) : List Reader.Piece :=
  if s.code < 0x10000 then [.ofUnit s.code]
  else [.half (Surrogate.high s.code), .half (Surrogate.low s.code)]

/-- Wherever it stands in a string, the text is read as these pieces. -/
def Spells (written : Text) (ps : List Reader.Piece) : Prop :=
  ∀ done rest, Reader.pieces done (written ++ rest) = Reader.pieces (ps.reverse ++ done) rest

namespace Spells

theorem nil : Spells [] [] := fun _ _ => rfl

theorem append {a b : Text} {ps qs : List Reader.Piece} (first : Spells a ps)
    (second : Spells b qs) : Spells (a ++ b) (ps ++ qs) := by
  intro done rest
  rw [List.append_assoc, first, second, List.reverse_append, List.append_assoc]

theorem flatMap {α : Type} {f : α → Text} {g : α → List Reader.Piece}
    (each : ∀ a, Spells (f a) (g a)) (items : List α) :
    Spells (items.flatMap f) (items.flatMap g) := by
  induction items with
  | nil => exact nil
  | cons a items ih => exact (each a).append ih

theorem plain {s : Symbol} (printable : 0x20 ≤ s.code) (quote : s ≠ .char '"')
    (backslash : s ≠ .char '\\') : Spells [s] [.whole s] := by
  intro done rest
  rw [List.singleton_append, Reader.pieces]
  · simp [Nat.not_lt.mpr printable, backslash]
  · exact quote
  · exact fun _ _ _ _ _ h _ => backslash h
  · exact fun _ _ h _ => backslash h

theorem unit {n : Nat} (bound : n < 0x10000) : Spells (Writer.unitEscape n) [.ofUnit n] := by
  intro done rest
  -- The reader takes the four digits apart one by one.
  have written : Hex.lower 4 n = [.char (Hex.lowerDigit (n / 16 / 16 / 16 % 16)),
      .char (Hex.lowerDigit (n / 16 / 16 % 16)), .char (Hex.lowerDigit (n / 16 % 16)),
      .char (Hex.lowerDigit (n % 16))] := rfl
  have found : Hex.read? (Hex.lower 4 n) = some n := Hex.read?_lower bound
  rw [written] at found
  simp [Writer.unitEscape, written, Reader.pieces, found]

theorem short {s : Symbol} {c : Char} (h : Writer.shortEscape? s = some c) :
    Spells [.char '\\', .char c] [.whole s] := by
  unfold Writer.shortEscape? at h
  split at h <;> cases h <;> intro done rest <;> rfl

end Spells

def Faithful (spell : Symbol → Text) : Prop := ∀ s, Spells (spell s) (units s)

theorem units_short {s : Symbol} (short : s.code < 0x10000)
    (single : Surrogate.isHigh s.code = false ∧ Surrogate.isLow s.code = false) :
    units s = [.whole s] := by
  simp [units, short, Reader.Piece.ofUnit, single, Symbol.ofCode_code]

theorem units_of_lt {s : Symbol} (small : s.code < 0x80) : units s = [.whole s] := by
  refine units_short (by omega) ?_
  simp only [Surrogate.isHigh, Surrogate.isLow, Bool.and_eq_false_iff, decide_eq_false_iff_not]
  omega

theorem code_of_shortEscape? {s : Symbol} {c : Char} (h : Writer.shortEscape? s = some c) :
    s.code < 0x80 := by
  unfold Writer.shortEscape? at h
  split at h <;> first | contradiction | decide

theorem halves_of_le {s : Symbol} (double : 0x10000 ≤ s.code) :
    (Surrogate.high s.code < 0x10000 ∧
      Reader.Piece.ofUnit (Surrogate.high s.code) = .half (Surrogate.high s.code)) ∧
    (Surrogate.low s.code < 0x10000 ∧
      Reader.Piece.ofUnit (Surrogate.low s.code) = .half (Surrogate.low s.code)) := by
  have bound := s.code_lt
  have high := Surrogate.isHigh_high double bound
  have low := Surrogate.isLow_low s.code
  refine ⟨⟨?_, by simp [Reader.Piece.ofUnit, high]⟩, ?_, by simp [Reader.Piece.ofUnit, low]⟩
  · unfold Surrogate.high
    omega
  · unfold Surrogate.low
    omega

theorem faithful_symbol : Faithful Writer.symbol := by
  intro s
  -- A short escape, the symbol itself, one escape or an escape for each half.
  unfold Writer.symbol
  split
  next c escape =>
    rw [units_of_lt (code_of_shortEscape? escape)]
    exact .short escape
  next noEscape =>
    split
    next printable =>
      rw [units_of_lt (by omega)]
      refine .plain printable.1 ?_ ?_ <;> rintro rfl <;> contradiction
    next =>
      split
      next single =>
        rw [units, if_pos single]
        exact .unit single
      next double =>
        obtain ⟨high, low⟩ := halves_of_le (Nat.le_of_not_lt double)
        rw [units, if_neg double, ← high.2, ← low.2]
        exact .append (.unit high.1) (.unit low.1)

def settled (s : Symbol) : Reader.Piece := if s.isLone then .half s.code else .whole s

theorem symbol_settled (s : Symbol) : (settled s).symbol = s := by
  cases s with
  | char c => rfl
  | lone half => exact Symbol.ofCode_code (.lone half)

def Unpaired (t : Text) : Prop :=
  t.IsChain fun a b => ¬ (Surrogate.isHigh a.code = true ∧ Surrogate.isLow b.code = true)

instance (t : Text) : Decidable (Unpaired t) := inferInstanceAs (Decidable (List.IsChain _ t))

theorem whole_char (c : Char) :
    Surrogate.isHigh c.toNat = false ∧ Surrogate.isLow c.toNat = false := by
  have valid := Symbol.notSurrogate c
  rw [← Bool.not_eq_true, ← Bool.not_eq_true, Surrogate.isHigh_iff, Surrogate.isLow_iff]
  omega

theorem Unpaired.of_isEncodable {t : Text} (h : t.isEncodable = true) : Unpaired t := by
  refine (List.pairwise_of_forall_mem_list fun a member b _ => ?_).isChain
  rintro ⟨high, -⟩
  have paired := List.all_eq_true.mp h a member
  cases a with
  | char c => exact Bool.noConfusion ((whole_char c).1.symm.trans high)
  | lone half => contradiction

open Reader (Piece)

theorem attach_whole (s : Symbol) (rest : List Piece) :
    Piece.attach (.whole s) rest = .whole s :: rest := by
  simp [Piece.attach]

theorem attach_half {n : Nat} {t : Text}
    (apart : ∀ s, t.head? = some s →
      ¬ (Surrogate.isHigh n = true ∧ Surrogate.isLow s.code = true)) :
    Piece.attach (.half n) (t.map settled) = .half n :: t.map settled := by
  cases t with
  | nil => rfl
  | cons s t =>
    have apart := apart s rfl
    cases s with
    | char c => rfl
    | lone half => simpa [Piece.attach, settled, Symbol.isLone] using apart

theorem ofUnit_code {s : Symbol} (single : s.code < 0x10000) :
    Piece.ofUnit s.code = settled s := by
  cases s with
  | char c =>
    obtain ⟨high, low⟩ := whole_char c
    have same := Symbol.ofCode_code (.char c)
    simp only [Symbol.code] at same
    simp [Piece.ofUnit, Symbol.code, high, low, same, settled, Symbol.isLone]
  | lone half =>
    have bound := half.isLt
    have either : Surrogate.isHigh (0xD800 + half) = true ∨
        Surrogate.isLow (0xD800 + half) = true := by
      rw [Surrogate.isHigh_iff, Surrogate.isLow_iff]
      omega
    simp [Piece.ofUnit, Symbol.code, either, settled, Symbol.isLone]

theorem attach_units {s : Symbol} {t : Text} (unpaired : Unpaired (s :: t)) :
    (units s).foldr Piece.attach (t.map settled) = settled s :: t.map settled := by
  by_cases single : s.code < 0x10000
  · simp only [units, if_pos single, ofUnit_code single, List.foldr_cons, List.foldr_nil]
    cases s with
    | char c => exact attach_whole _ _
    | lone half => exact attach_half (List.isChain_cons.mp unpaired).1
  -- Two halves: the high one is attached to the low one that has just been put in front.
  · have double := Nat.le_of_not_lt single
    have whole : settled s = .whole s := by
      cases s with
      | char c => rfl
      | lone half =>
        have bound := half.isLt
        simp only [Symbol.code] at double
        omega
    have low : Piece.attach (.half (Surrogate.low s.code)) (t.map settled) = _ :=
      attach_half fun _ _ h => by simp [Surrogate.isHigh_low] at h
    simp only [units, if_neg single, List.foldr_cons, List.foldr_nil, low]
    simp [Piece.attach, Surrogate.isHigh_high double s.code_lt, Surrogate.isLow_low,
      Surrogate.join_high_low double, Symbol.ofCode_code, whole]

theorem foldr_attach {t : Text} (unpaired : Unpaired t) :
    (t.flatMap units).foldr Piece.attach [] = t.map settled := by
  induction t with
  | nil => rfl
  | cons s t ih =>
    rw [List.flatMap_cons, List.foldr_append, ih unpaired.of_cons, attach_units unpaired,
      List.map_cons]

theorem text_units {t : Text} (unpaired : Unpaired t) : Piece.text (t.flatMap units) = t := by
  rw [Piece.text, foldr_attach unpaired, List.map_map]
  exact List.map_id'' symbol_settled t

def quoted (spell : Symbol → Text) (t : Text) : Text :=
  .char '"' :: (t.flatMap spell ++ [.char '"'])

theorem string_quoted {spell : Symbol → Text} (faithful : Faithful spell) {t : Text}
    (unpaired : Unpaired t) (rest : Text) :
    Reader.string (t.flatMap spell ++ .char '"' :: rest) = .ok (t, rest) := by
  have read := Spells.flatMap faithful t [] (.char '"' :: rest)
  rw [List.append_nil, Reader.pieces, List.reverse_reverse] at read
  rw [Reader.string, read]
  exact congrArg (fun t => Except.ok (t, rest)) (text_units unpaired)

end Json

end RequestLine
