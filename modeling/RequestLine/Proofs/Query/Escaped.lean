import RequestLine.Proofs.Digits
import RequestLine.Proofs.Query.Pairs

set_option autoImplicit false

namespace RequestLine.Query

def isPlain (c : Char) : Bool := c.isAlphanum || "_.-~!*'()".toList.contains c

def upperDigits : List Char := "0123456789ABCDEF".toList

/-- No triple stands for a byte that could have stood for itself. -/
inductive Escaped : Text → Prop where
  | nil : Escaped []
  | plain {c : Char} {rest : Text} (unreserved : isPlain c = true) (escaped : Escaped rest) :
      Escaped (.char c :: rest)
  | triple {high low : Char} {n : Nat} {rest : Text} (upperHigh : high ∈ upperDigits)
      (upperLow : low ∈ upperDigits) (code : Hex.read? [.char high, .char low] = some n)
      (reserved : isPlain (Char.ofNat n) = false) (escaped : Escaped rest) :
      Escaped (.char '%' :: .char high :: .char low :: rest)

theorem isUnreserved_eq (b : UInt8) : isUnreserved b = isPlain (Char.ofNat b.toNat) := by
  have all : ∀ n < 256, isUnreserved (UInt8.ofNat n) = isPlain (Char.ofNat n) := by decide +kernel
  simpa using all b.toNat b.toNat_lt

theorem upperDigit_mem {n : Nat} (bound : n < 16) : Hex.upperDigit n ∈ upperDigits := by
  have all : ∀ n < 16, Hex.upperDigit n ∈ upperDigits := by decide
  exact all n bound

theorem upper_two (n : Nat) :
    Hex.upper 2 n = [.char (Hex.upperDigit (n / 16 % 16)), .char (Hex.upperDigit (n % 16))] := rfl

inductive IsEscapeOf (b : UInt8) : Text → Prop where
  | plain {c : Char} (unreserved : isPlain c = true) (code : c.toNat = b.toNat) :
      IsEscapeOf b [.char c]
  | triple {high low : Char} (upperHigh : high ∈ upperDigits) (upperLow : low ∈ upperDigits)
      (code : Hex.read? [.char high, .char low] = some b.toNat)
      (reserved : isPlain (Char.ofNat b.toNat) = false) :
      IsEscapeOf b [.char '%', .char high, .char low]

theorem isEscapeOf_escapeByte (b : UInt8) : IsEscapeOf b (escapeByte b) := by
  unfold escapeByte
  rw [isUnreserved_eq]
  split
  next unreserved =>
    have code : ∀ n < 256, (Char.ofNat n).toNat = n := by decide +kernel
    exact .plain unreserved (code b.toNat b.toNat_lt)
  next reserved =>
    have code : Hex.read? (Hex.upper 2 b.toNat) = some b.toNat := Hex.read?_upper b.toNat_lt
    rw [upper_two] at code ⊢
    exact .triple (upperDigit_mem (Nat.mod_lt _ (by decide)))
      (upperDigit_mem (Nat.mod_lt _ (by decide))) code (Bool.not_eq_true _ ▸ reserved)

theorem escaped_bytes (bytes : List UInt8) : Escaped (bytes.flatMap escapeByte) := by
  induction bytes with
  | nil => exact .nil
  | cons b bytes ih =>
    have first := isEscapeOf_escapeByte b
    rw [List.flatMap_cons]
    generalize escapeByte b = written at first
    cases first with
    | plain unreserved _ => exact .plain unreserved ih
    | triple upperHigh upperLow code reserved => exact .triple upperHigh upperLow code reserved ih

theorem isPlain_of_upperDigits {c : Char} (upper : c ∈ upperDigits) : isPlain c = true := by
  have all : upperDigits.all isPlain = true := by decide
  exact List.all_eq_true.mp all c upper

theorem isPlain_bounds {c : Char} (plain : isPlain c = true) :
    0x20 < c.toNat ∧ c.toNat < 0x7F := by
  have marks : "_.-~!*'()".toList.all (fun d => 0x20 < d.toNat && d.toNat < 0x7F) = true := by
    decide
  rw [isPlain, Bool.or_eq_true, List.contains_iff_mem] at plain
  rcases plain with word | mark
  · rcases (Bool.or_eq_true c.isAlpha c.isDigit).mp word with letter | digit
    · rcases (Bool.or_eq_true c.isUpper c.isLower).mp letter with upper | lower
      · have bounds : 65 ≤ c.toNat ∧ c.toNat ≤ 90 := of_decide_eq_true upper
        omega
      · have first : 97 ≤ c.toNat := of_decide_eq_true ((Bool.and_eq_true _ _).mp lower).1
        have last : c.toNat ≤ 122 := of_decide_eq_true ((Bool.and_eq_true _ _).mp lower).2
        omega
    · have bounds : 48 ≤ c.toNat ∧ c.toNat ≤ 57 := Char.isDigit_iff_toNat.mp digit
      omega
  · simpa using List.all_eq_true.mp marks c mark

def IsQuoted (s : Symbol) : Prop := ∃ c, s = .char c ∧ (isPlain c = true ∨ c = '%')

theorem Escaped.isQuoted {t : Text} (escaped : Escaped t) : ∀ s ∈ t, IsQuoted s := by
  induction escaped with
  | nil => simp
  | plain unreserved _ ih => exact List.forall_mem_cons.mpr ⟨⟨_, rfl, .inl unreserved⟩, ih⟩
  | triple upperHigh upperLow _ _ _ ih =>
    have digit {c : Char} (upper : c ∈ upperDigits) : IsQuoted (.char c) :=
      ⟨c, rfl, .inl (isPlain_of_upperDigits upper)⟩
    exact List.forall_mem_cons.mpr ⟨⟨_, rfl, .inr rfl⟩,
      List.forall_mem_cons.mpr ⟨digit upperHigh, List.forall_mem_cons.mpr ⟨digit upperLow, ih⟩⟩⟩

theorem Escaped.not_mem {t : Text} (escaped : Escaped t) {c : Char} (reserved : isPlain c = false)
    (other : c ≠ '%') : Symbol.char c ∉ t := by
  intro member
  obtain ⟨d, same, unreserved | percent⟩ := escaped.isQuoted _ member
  · cases same
    rw [reserved] at unreserved
    contradiction
  · cases same
    exact other percent

inductive IsPair : Text → Prop where
  | intro {key value : Text} (left : Escaped key) (right : Escaped value) :
      IsPair (key ++ Symbol.char '=' :: value)

theorem isPair_pairText (p : Text × Text) : IsPair (pairText p) :=
  .intro (escaped_bytes _) (escaped_bytes _)

namespace IsPair

variable {part : Text}

theorem ampersand_not_mem (pair : IsPair part) : Symbol.char '&' ∉ part := by
  cases pair with
  | intro left right =>
    simp [left.not_mem (c := '&') rfl (by decide), right.not_mem (c := '&') rfl (by decide)]

theorem count_equals (pair : IsPair part) : part.count (.char '=') = 1 := by
  cases pair with
  | intro left right =>
    have absent {t : Text} (escaped : Escaped t) : t.count (.char '=') = 0 :=
      List.count_eq_zero.mpr (escaped.not_mem rfl (by decide))
    rw [List.count_append, List.count_cons_self, absent left, absent right]

end IsPair

end RequestLine.Query
