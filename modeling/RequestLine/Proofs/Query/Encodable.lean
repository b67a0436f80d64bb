import RequestLine.Proofs.Json.Kept
import RequestLine.Proofs.Text.Encodable
import RequestLine.Query

set_option autoImplicit false

namespace RequestLine.Query

def values : Json → List Json
  | .arr elements => elements
  | v => [v]

def IsShort (v : Json) : Prop := ∀ n, v = .int n → n.natAbs < Nat.pow 10 Text.maxDigits

def isEncodableItem : Json → Bool
  | .str t => t.isEncodable
  | _ => true

def isEncodableValue : Json → Bool
  | .arr elements => elements.all isEncodableItem
  | v => isEncodableItem v

def isEncodable (params : Json.Members) : Bool :=
  params.all fun m => m.1.isEncodable && isEncodableValue m.2

theorem isEncodable_iff {params : Json.Members} :
    isEncodable params = true ↔
      ∀ m ∈ params, m.1.isEncodable = true ∧ ∀ v ∈ values m.2, isEncodableItem v = true := by
  have each (v : Json) : isEncodableValue v = (values v).all isEncodableItem := by
    cases v <;> simp [isEncodableValue, values]
  simp [isEncodable, each]

theorem isShort_of_tidy {v : Json} (tidy : v.Obeys Json.tidy) : IsShort v := by
  rintro n rfl
  exact Json.tidy_int.mp tidy

theorem isShort_values_of_tidy {params : Json.Members}
    (tidy : Json.Obeys Json.tidy (.obj params)) : ∀ m ∈ params, ∀ v ∈ values m.2, IsShort v := by
  intro m member v element
  have each := ((Json.obeys_obj params).mp tidy).2 m member
  obtain ⟨key, value⟩ := m
  cases value with
  | arr elements => exact isShort_of_tidy ((Json.obeys_arr elements).mp each v element)
  | _ =>
    cases List.mem_singleton.mp element
    exact isShort_of_tidy each

inductive Encoded {α : Type} (good : α → Prop) : Bool → Except Fault α → Prop where
  | ok {a : α} (h : good a) : Encoded good true (.ok a)
  | unencodable : Encoded good false (.error .unencodable)

namespace Encoded

variable {α β : Type} {good : α → Prop} {better : β → Prop}

theorem bind {b c : Bool} {r : Except Fault α} {f : α → Except Fault β} (h : Encoded good b r)
    (each : ∀ a, good a → Encoded better c (f a)) : Encoded better (b && c) (r >>= f) := by
  cases h with
  | ok h => exact each _ h
  | unencodable => exact unencodable

theorem map {b : Bool} {r : Except Fault α} {f : α → β} (h : Encoded good b r)
    (each : ∀ a, good a → better (f a)) : Encoded better b (r.map f) := by
  cases h with
  | ok h => exact ok (each _ h)
  | unencodable => exact unencodable

theorem mapM {γ : Type} {p : γ → Bool} {f : γ → Except Fault α} {items : List γ}
    (each : ∀ x ∈ items, Encoded good (p x) (f x)) :
    Encoded (fun as => ∀ a ∈ as, good a) (items.all p) (items.mapM f) := by
  induction items with
  | nil => exact ok (by simp)
  | cons x items ih =>
    rw [List.forall_mem_cons] at each
    rw [List.mapM_cons, List.all_cons]
    refine bind each.1 fun a goodHead => ?_
    rw [← Bool.and_true (items.all p)]
    exact bind (ih each.2) fun as goodTail => ok (List.forall_mem_cons.mpr ⟨goodHead, goodTail⟩)

theorem eq_ok {r : Except Fault α} (h : Encoded good true r) : ∃ a, r = .ok a ∧ good a := by
  cases h with
  | ok h => exact ⟨_, rfl, h⟩

theorem of_ok {b : Bool} {a : α} (h : Encoded good b (.ok a)) : b = true ∧ good a := by
  cases h with
  | ok h => exact ⟨rfl, h⟩

end Encoded

abbrev Readable (t : Text) : Prop := t.isEncodable = true

theorem isEncodable_escapeByte (b : UInt8) : (escapeByte b).isEncodable = true := by
  unfold escapeByte
  split <;> simp [Hex.upper]

theorem encoded_escape (t : Text) : Encoded Readable t.isEncodable (escape t) := by
  have bytes := Text.utf8?_isSome t
  unfold escape
  cases h : t.utf8? with
  | none =>
    rw [h] at bytes
    rw [← bytes]
    exact .unencodable
  | some found =>
    rw [h] at bytes
    rw [← bytes]
    exact .ok (Text.isEncodable_flatMap _ fun b _ => isEncodable_escapeByte b)

theorem whole_lt {m p : Nat} (valid : m < 1 <<< 53 ∧ (1 <<< 52 ≤ m ∨ p = 0) ∧ p ≤ 2045) :
    m <<< p / Double.unit + 1 < Nat.pow 10 Text.maxDigits := by
  rw [Numeral.pow_ten]
  calc m <<< p / Double.unit + 1
    _ ≤ m <<< p + 1 := Nat.succ_le_succ (Nat.div_le_self _ _)
    _ = m * 2 ^ p + 1 := by rw [Nat.shiftLeft_eq]
    _ ≤ 2 ^ 53 * 2 ^ p := Nat.mul_lt_mul_of_pos_right valid.1 (Nat.two_pow_pos p)
    _ = 2 ^ (53 + p) := (Nat.pow_add 2 53 p).symm
    _ < 2 ^ Text.maxDigits := Nat.pow_lt_pow_right (by decide) (by unfold Text.maxDigits; omega)
    _ ≤ 10 ^ Text.maxDigits := Nat.pow_le_pow_left (by decide) _

theorem natAbs_truncate {x : Double} {n : Int} (h : x.truncate = .ok n) :
    n.natAbs < Nat.pow 10 Text.maxDigits := by
  cases x with
  | finite negative m p valid =>
    cases h
    rw [Double.natAbs_signed]
    exact Nat.lt_of_succ_lt (whole_lt valid)
  | infinite negative => contradiction
  | nan => contradiction

theorem natAbs_round {x : Double} {n : Int} (h : x.round = .ok n) :
    n.natAbs < Nat.pow 10 Text.maxDigits := by
  cases x with
  | finite negative m p valid =>
    cases h
    rw [Double.natAbs_signed]
    exact Nat.lt_of_le_of_lt (Double.roundHalfEven_bounds _ _).2 (whole_lt valid)
  | infinite negative => contradiction
  | nan => contradiction

theorem double_eq_ok (x : Double) : ∃ t, double x = .ok t ∧ Readable t := by
  unfold double
  split
  next whole =>
    cases h : x.truncate with
    | ok n => exact ⟨_, if_pos (natAbs_truncate h), Text.isEncodable_ofInt n⟩
    | error reason => cases x <;> simp_all [Double.isInteger, Double.truncate]
  next => exact ⟨_, rfl, Double.isEncodable_text _ x⟩

theorem scalar_eq_ok {v : Json} (short : IsShort v) :
    ∃ t, scalar v = .ok t ∧ t.isEncodable = isEncodableItem v := by
  cases v with
  | null => exact ⟨_, rfl, rfl⟩
  | bool b => exact ⟨_, rfl, Text.isEncodable_ofString _⟩
  | int n =>
    refine ⟨Text.ofInt n, ?_, Text.isEncodable_ofInt n⟩
    rw [scalar, decimal, if_pos (short n rfl)]
  | float x => exact double_eq_ok x
  | str t => exact ⟨t, rfl, rfl⟩
  | arr elements => exact ⟨_, rfl, rfl⟩
  | obj members => exact ⟨_, rfl, rfl⟩

theorem encoded_pair {key : Text} (readable : Readable key) {v : Json} (short : IsShort v) :
    Encoded Readable (isEncodableItem v) (pair key v) := by
  obtain ⟨t, written, same⟩ := scalar_eq_ok short
  have escaped : Encoded Readable t.isEncodable
      (escape t >>= fun value => .ok (key ++ (Symbol.char '=' :: value))) := by
    rw [← Bool.and_true t.isEncodable]
    refine (encoded_escape t).bind fun value h => .ok ?_
    rw [Readable, Text.isEncodable_append, readable, Text.isEncodable_char, h]
    rfl
  rw [pair, written, ← same]
  exact escaped

theorem encoded_pairs {m : Text × Json} (short : ∀ v ∈ values m.2, IsShort v) :
    Encoded (fun ts => ∀ t ∈ ts, Readable t) (m.1.isEncodable && isEncodableValue m.2)
      (pairs m) := by
  obtain ⟨name, v⟩ := m
  refine (encoded_escape name).bind fun key readable => ?_
  have single (short : IsShort v) :
      Encoded (fun ts => ∀ t ∈ ts, Readable t) (isEncodableItem v)
        (pair key v >>= fun t => .ok [t]) := by
    rw [← Bool.and_true (isEncodableItem v)]
    exact (encoded_pair readable short).bind fun t h => .ok (by simpa using h)
  cases v with
  | arr elements => exact .mapM fun v member => encoded_pair readable (short v member)
  | _ => exact single (short _ (List.mem_singleton_self _))

theorem encoded_encode {params : Json.Members}
    (short : ∀ m ∈ params, ∀ v ∈ values m.2, IsShort v) :
    Encoded Readable (isEncodable params) (encode params) := by
  rw [← Bool.and_true (isEncodable params)]
  refine (Encoded.mapM fun m member => encoded_pairs (short m member)).bind fun written h => ?_
  refine .ok (Text.isEncodable_join "&" fun part member => ?_)
  obtain ⟨ts, inWritten, inParts⟩ := List.mem_flatten.mp member
  exact h ts inWritten part inParts

theorem encoded_extend (url : Text) {params : Json.Members}
    (tidy : Json.Obeys Json.tidy (.obj params)) :
    Encoded (fun t : Text => t.isEncodable = url.isEncodable ∧ url <+: t) (isEncodable params)
      (extend url params) := by
  unfold extend
  split
  next empty =>
    rw [List.isEmpty_iff.mp empty]
    exact .ok ⟨rfl, List.prefix_refl url⟩
  next =>
    refine (encoded_encode (isShort_values_of_tidy tidy)).map fun query h =>
      ⟨?_, List.prefix_append url _⟩
    rw [Text.isEncodable_append, Text.isEncodable_char, h, Bool.and_true]

end RequestLine.Query
