import Mathlib.Logic.Basic
import RequestLine.Proofs.Query.Encodable

set_option autoImplicit false

namespace RequestLine

def Text.HoldsLone (t : Text) : Prop := ∃ half, Symbol.lone half ∈ t

theorem Text.isEncodable_eq_false_iff {t : Text} : t.isEncodable = false ↔ t.HoldsLone := by
  induction t with
  | nil => exact ⟨fun h => by contradiction, fun ⟨_, member⟩ => by contradiction⟩
  | cons s t ih =>
    cases s with
    | char c => simpa [HoldsLone] using ih
    | lone half => exact ⟨fun _ => ⟨half, List.mem_cons_self⟩, fun _ => rfl⟩

namespace Query

theorem isEncodableItem_eq_false_iff {v : Json} :
    isEncodableItem v = false ↔ ∃ t, v = .str t ∧ t.HoldsLone := by
  cases v with
  | str t => simp [isEncodableItem, Text.isEncodable_eq_false_iff]
  | _ => simp [isEncodableItem]

theorem isEncodable_eq_false_iff {params : Json.Members} :
    isEncodable params = false ↔
      ∃ m ∈ params, m.1.HoldsLone ∨ ∃ t, .str t ∈ values m.2 ∧ t.HoldsLone := by
  have item (m : Text × Json) : (∃ v ∈ values m.2, isEncodableItem v = false) ↔
      ∃ t, .str t ∈ values m.2 ∧ t.HoldsLone := by
    simp only [isEncodableItem_eq_false_iff]
    constructor
    · rintro ⟨_, element, t, rfl, holds⟩
      exact ⟨t, element, holds⟩
    · rintro ⟨t, element, holds⟩
      exact ⟨_, element, t, rfl, holds⟩
  rw [← Bool.not_eq_true, isEncodable_iff]
  simp only [not_forall, not_and_or, exists_prop, Bool.not_eq_true, Text.isEncodable_eq_false_iff,
    item]

theorem Encoded.error_iff {α : Type} {good : α → Prop} {b : Bool} {r : Except Fault α}
    (h : Encoded good b r) {fault : Fault} :
    r = .error fault ↔ fault = .unencodable ∧ b = false := by
  cases h <;> simp [eq_comm]

/-- Infinities, the largest doubles and integers of as many digits as are read are all written. -/
theorem encode_error_iff {params : Json.Members}
    (short : ∀ m ∈ params, ∀ v ∈ values m.2, IsShort v) {fault : Fault} :
    encode params = .error fault ↔ fault = .unencodable ∧
      ∃ m ∈ params, m.1.HoldsLone ∨ ∃ t, .str t ∈ values m.2 ∧ t.HoldsLone := by
  rw [(encoded_encode short).error_iff, isEncodable_eq_false_iff]

theorem key_of_empty_list_counts :
    let half : Symbol := .lone 0
    let longest : Int := 1 - Nat.pow 10 4300
    let below : Json := .arr [.obj [([half], .str [half])], .arr [.str [half]],
      .float (.infinite true), .float .nan, .float (.ofDecimal false 17 307), .int longest]
    let params := [([], below), (Text.ofString "e", .obj [([half], .null)])]
    encode [([half], .arr [])] = .error .unencodable ∧
      ∀ fault, encode params ≠ .error fault := by
  intro half longest below params
  have fits : longest.natAbs < Nat.pow 10 Text.maxDigits := by decide +kernel
  have short : ∀ m ∈ params, ∀ v ∈ values m.2, IsShort v := by
    simpa [params, values, below, IsShort] using fits
  refine ⟨(encode_error_iff (by simp [values])).mpr ⟨rfl, _, List.mem_singleton_self _, .inl ?_⟩,
    fun fault failed => ?_⟩
  · exact ⟨0, List.mem_singleton_self _⟩
  · have held := isEncodable_eq_false_iff.mpr ((encode_error_iff short).mp failed).2
    exact absurd held (by decide)

end Query

end RequestLine
