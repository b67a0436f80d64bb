import Mathlib.Algebra.Group.Nat.Defs
import RequestLine.Double.Numeral
import RequestLine.Text.Hex

set_option autoImplicit false

namespace RequestLine

def AreDigits (cs : List Char) : Prop := ∀ c ∈ cs, c.isDigit = true

def NoDigit (t : Text) : Prop := ∀ s, t.head? = some s → s.isDigit = false

theorem noDigit_nil : NoDigit [] := fun _ h => by contradiction

theorem areDigits_cons {c : Char} {cs : List Char} :
    AreDigits (c :: cs) ↔ c.isDigit = true ∧ AreDigits cs := List.forall_mem_cons

theorem areDigits_append {cs ds : List Char} :
    AreDigits (cs ++ ds) ↔ AreDigits cs ∧ AreDigits ds := List.forall_mem_append

theorem areDigits_toDigits (n : Nat) : AreDigits (Nat.toDigits 10 n) := fun _ member =>
  Nat.isDigit_of_mem_toDigits (by decide) (by decide) member

theorem areDigits_replicate (n : Nat) : AreDigits (List.replicate n '0') := by
  intro c member
  rw [List.eq_of_mem_replicate member]
  rfl

theorem head?_toDigits {n : Nat} (positive : 0 < n) :
    (Nat.toDigits 10 n).head? ≠ some '0' := by
  induction n using Nat.base_induction 10 (by decide) with
  | single n small =>
    simpa [Nat.toDigits_of_lt_base small] using Nat.ne_of_gt positive
  | digit n k small large ih =>
    obtain ⟨c, cs, front⟩ := List.exists_cons_of_ne_nil (Nat.toDigits_ne_nil (n := n) (b := 10))
    have h := ih large
    rw [← Nat.toDigits_append_toDigits (by decide) large small]
    simpa [front] using h

namespace Text

theorem areDigits_digits (t : Text) : AreDigits t.digits := by
  intro c member
  obtain ⟨s, inRun, same⟩ := List.mem_filterMap.mp member
  have digit : s.isDigit = true := List.all_eq_true.mp List.all_takeWhile s inRun
  cases s with
  | char d =>
    cases same
    exact digit
  | lone half => contradiction

theorem digits_append {cs : List Char} {rest : Text} (digits : AreDigits cs)
    (ends : NoDigit rest) : Text.digits (cs.map .char ++ rest) = cs := by
  induction cs with
  | nil =>
    cases rest with
    | nil => rfl
    | cons s rest => simp [Text.digits, ends s rfl]
  | cons c cs ih =>
    rw [areDigits_cons] at digits
    simpa [Text.digits, Symbol.isDigit, Symbol.char?, digits.1] using ih digits.2

theorem afterDigits_append {cs : List Char} {rest : Text} (digits : AreDigits cs)
    (ends : NoDigit rest) : afterDigits (cs.map .char ++ rest) = rest := by
  induction cs with
  | nil =>
    cases rest with
    | nil => rfl
    | cons s rest => simp [afterDigits, ends s rfl]
  | cons c cs ih =>
    rw [areDigits_cons] at digits
    simpa [afterDigits, Symbol.isDigit, digits.1] using ih digits.2

end Text

namespace Numeral

theorem natural_toDigits (n : Nat) : natural (Nat.toDigits 10 n) = n :=
  Nat.ofDigitChars_ten_toDigits

theorem pow_ten (n : Nat) : Nat.pow 10 n = 10 ^ n := rfl

theorem ofDigitChars_lt {cs : List Char} (digits : AreDigits cs) (n : Nat) :
    Nat.ofDigitChars 10 cs n < (n + 1) * 10 ^ cs.length := by
  induction cs generalizing n with
  | nil => simp
  | cons c cs ih =>
    rw [areDigits_cons, Char.isDigit_iff_toNat] at digits
    have small : c.toNat - '0'.toNat < 10 := by
      have : c.toNat ≤ 57 := digits.1.2
      change c.toNat - 48 < 10
      omega
    rw [Nat.ofDigitChars_cons]
    calc
      _ < (10 * n + (c.toNat - '0'.toNat) + 1) * 10 ^ cs.length := ih digits.2 _
      _ ≤ (10 * (n + 1)) * 10 ^ cs.length := Nat.mul_le_mul_right _ (by omega)
      _ = (n + 1) * 10 ^ (c :: cs).length := by
        rw [List.length_cons, Nat.pow_succ, Nat.mul_comm 10, Nat.mul_assoc, Nat.mul_comm 10]

theorem natural_lt {cs : List Char} (digits : AreDigits cs) : natural cs < 10 ^ cs.length := by
  simpa [natural] using ofDigitChars_lt digits 0

end Numeral

end RequestLine

namespace RequestLine.Hex

theorem value?_lowerDigit {n : Nat} (bound : n < 16) : value? (lowerDigit n) = some n := by
  have all : ∀ n < 16, value? (lowerDigit n) = some n := by decide
  exact all n bound

theorem value?_upperDigit {n : Nat} (bound : n < 16) : value? (upperDigit n) = some n := by
  have all : ∀ n < 16, value? (upperDigit n) = some n := by decide
  exact all n bound

theorem read?_digits {alphabet : Nat → Char} (reads : ∀ n < 16, value? (alphabet n) = some n)
    {width n : Nat} (bound : n < 16 ^ width) :
    read? ((digits alphabet width n).map .char) = some n := by
  induction width generalizing n with
  | zero =>
    rw [Nat.pow_zero, Nat.lt_one_iff] at bound
    subst bound
    rfl
  | succ width ih =>
    have front : read? ((digits alphabet width (n / 16)).map .char) = some (n / 16) :=
      ih (Nat.div_lt_of_lt_mul (by rwa [Nat.pow_succ'] at bound))
    have last := reads (n % 16) (Nat.mod_lt n (by decide))
    rw [read?] at front
    rw [read?, digits, List.map_append, List.foldlM_append, front]
    simp [Symbol.char?, last, Nat.div_add_mod]

theorem read?_lower {width n : Nat} (bound : n < 16 ^ width) : read? (lower width n) = some n :=
  read?_digits (fun _ => value?_lowerDigit) bound

theorem read?_upper {width n : Nat} (bound : n < 16 ^ width) : read? (upper width n) = some n :=
  read?_digits (fun _ => value?_upperDigit) bound

end RequestLine.Hex
