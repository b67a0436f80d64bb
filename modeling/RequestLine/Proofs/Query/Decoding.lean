import RequestLine.Proofs.Query.Escaped
import RequestLine.Proofs.Text.Cut
import RequestLine.Proofs.Text.Join
import RequestLine.Text.Split

set_option autoImplicit false

namespace RequestLine

namespace Text

theorem eq_of_mapM_char? {t : Text} {cs : List Char} (h : t.mapM Symbol.char? = some cs) :
    t = cs.map .char := by
  induction t generalizing cs with
  | nil =>
    cases h
    rfl
  | cons s t ih =>
    cases s with
    | char c =>
      cases more : t.mapM Symbol.char? with
      | none => simp [Symbol.char?, more] at h
      | some ds =>
        simp only [List.mapM_cons, Symbol.char?, more, Option.bind_eq_bind, Option.bind_some,
          Option.pure_def, Option.some.injEq] at h
        rw [← h, List.map_cons, ← ih more]
    | lone half => simp [Symbol.char?] at h

theorem ofUtf8?_eq_some {t : Text} {bytes : ByteArray} (h : t.utf8? = some bytes) :
    Text.ofUtf8? bytes = some t := by
  obtain ⟨s, spelled, rfl⟩ := Option.map_eq_some_iff.mp h
  obtain ⟨cs, chars, rfl⟩ := Option.map_eq_some_iff.mp spelled
  have whole : t = Text.ofString (String.ofList cs) := by
    rw [eq_of_mapM_char? chars, Text.ofString, String.toList_ofList]
  rw [whole]
  exact Text.ofUtf8?_toUTF8 _

end Text

namespace Query

def literal? (s : Symbol) : Option UInt8 :=
  s.char?.bind fun c => if c.toNat < 0x80 ∧ c ≠ '%' then some (UInt8.ofNat c.toNat) else none

def bytes? : Text → Option (List UInt8)
  | [] => some []
  | .char '%' :: high :: low :: rest => do
    let n ← Hex.read? [high, low]
    return UInt8.ofNat n :: (← bytes? rest)
  | s :: rest => do
    let b ← literal? s
    return b :: (← bytes? rest)

def component? (t : Text) : Option Text := do
  let bytes ← bytes? t
  Text.ofUtf8? ⟨bytes.toArray⟩

def decodePair? (part : Text) : Option (Text × Text) := do
  let (key, value) ← part.cut? (.char '=')
  return (← component? key, ← component? value)

def decode? (q : Text) : Option (List (Text × Text)) :=
  if q.isEmpty then some [] else (q.splitOn (.char '&')).mapM decodePair?

theorem bytes?_plain {c : Char} {b : UInt8} {rest : Text} {bytes : List UInt8}
    (unreserved : isPlain c = true) (code : c.toNat = b.toNat) (later : bytes? rest = some bytes) :
    bytes? (.char c :: rest) = some (b :: bytes) := by
  have ascii := isPlain_bounds unreserved
  have other : c ≠ '%' := by
    rintro rfl
    contradiction
  have itself : literal? (.char c) = some b := by
    rw [literal?, Symbol.char?, Option.bind_some, if_pos ⟨by omega, other⟩, code,
      UInt8.ofNat_toNat]
  rw [bytes?, itself, later]
  · rfl
  · rintro high low more same
    cases same
    contradiction

theorem bytes?_triple {high low : Char} {b : UInt8} {rest : Text} {bytes : List UInt8}
    (code : Hex.read? [.char high, .char low] = some b.toNat) (later : bytes? rest = some bytes) :
    bytes? (.char '%' :: .char high :: .char low :: rest) = some (b :: bytes) := by
  rw [bytes?, code, later, Option.bind_eq_bind, Option.bind_some, UInt8.ofNat_toNat]
  rfl

theorem bytes?_escaped (bytes : List UInt8) : bytes? (bytes.flatMap escapeByte) = some bytes := by
  induction bytes with
  | nil => rfl
  | cons b bytes ih =>
    have first := isEscapeOf_escapeByte b
    rw [List.flatMap_cons]
    generalize escapeByte b = written at first
    cases first with
    | plain unreserved code => exact bytes?_plain unreserved code ih
    | triple _ _ code _ => exact bytes?_triple code ih

theorem component?_escaped {t : Text} (encodable : t.isEncodable = true) :
    component? (escaped t) = some t := by
  rw [← Text.utf8?_isSome, Option.isSome_iff_exists] at encodable
  obtain ⟨bytes, spelled⟩ := encodable
  rw [component?, escaped, spelled, Option.getD_some, bytes?_escaped]
  exact Text.ofUtf8?_eq_some spelled

theorem decodePair?_pairText {p : Text × Text} (key : p.1.isEncodable = true)
    (value : p.2.isEncodable = true) : decodePair? (pairText p) = some p := by
  have cut : Text.cut? (.char '=') (pairText p) = some (escaped p.1, escaped p.2) :=
    Text.cut?_eq_some.mpr ⟨rfl, (escaped_bytes _).not_mem rfl (by decide)⟩
  rw [decodePair?, cut]
  simp [component?_escaped key, component?_escaped value]

theorem mapM_decodePair? {ps : List (Text × Text)}
    (encodable : ∀ p ∈ ps, p.1.isEncodable = true ∧ p.2.isEncodable = true) :
    (ps.map pairText).mapM decodePair? = some ps := by
  induction ps with
  | nil => rfl
  | cons p ps ih =>
    rw [List.forall_mem_cons] at encodable
    rw [List.map_cons, List.mapM_cons, ih encodable.2,
      decodePair?_pairText encodable.1.1 encodable.1.2]
    rfl

theorem splitOn_join {ps : List (Text × Text)} (some : ps ≠ []) :
    (Text.join "&" (ps.map pairText)).splitOn (.char '&') = ps.map pairText := by
  have mark : Text.ofString "&" = [.char '&'] := rfl
  rw [Text.join, mark]
  exact List.splitOn_intercalate _
    (List.forall_mem_map.mpr fun p _ => (isPair_pairText p).ampersand_not_mem) (by simpa using some)

theorem decode?_join {ps : List (Text × Text)}
    (encodable : ∀ p ∈ ps, p.1.isEncodable = true ∧ p.2.isEncodable = true) :
    decode? (Text.join "&" (ps.map pairText)) = some ps := by
  cases ps with
  | nil => rfl
  | cons p ps =>
    have longer : (pairText p).length ≤ (Text.join "&" ((p :: ps).map pairText)).length :=
      Text.length_le_join "&" (by simp)
    have some : Text.join "&" ((p :: ps).map pairText) ≠ [] := by
      intro empty
      rw [empty, pairText, List.length_append] at longer
      simp at longer
    rw [decode?, if_neg (by simpa using some), splitOn_join (by simp),
      mapM_decodePair? encodable]

theorem encodable_of_mem_pairsOf {params : Json.Members} (readable : isEncodable params = true) :
    ∀ p ∈ pairsOf params, p.1.isEncodable = true ∧ p.2.isEncodable = true := by
  refine List.forall_mem_flatMap.mpr fun m member => ?_
  obtain ⟨key, items⟩ := isEncodable_iff.mp readable m member
  refine List.forall_mem_map.mpr fun v element => ⟨key, ?_⟩
  rw [isEncodable_valueText]
  exact items v element

theorem exists_encode_iff {params : Json.Members} (readable : isEncodable params = true) :
    (∃ q, encode params = .ok q) ↔ ∀ m ∈ params, ∀ v ∈ values m.2, IsShort v := by
  constructor
  · rintro ⟨q, encoded⟩ m member
    exact ((encode_iff.mp encoded).1 m member).short
  · intro short
    refine ⟨_, encode_iff.mpr ⟨fun m member => ?_, rfl⟩⟩
    obtain ⟨key, items⟩ := isEncodable_iff.mp readable m member
    exact ⟨key, short m member, items⟩

theorem isShort_of_read [Runtime] {dialect : Json.Dialect} {t : Text} {params : Json.Members}
    (read : Json.read dialect t = .ok (.obj params)) :
    ∀ m ∈ params, ∀ v ∈ values m.2, IsShort v :=
  isShort_values_of_tidy (Json.tidy_of_read read)

/-- A form that is read gives the pairs back, in their order. Integers that have too many digits
are all that keeps encodable members from being written, and no text is read as one of those. -/
theorem decode_encode [Runtime] {params : Json.Members} (readable : isEncodable params = true) :
    (∀ q, encode params = .ok q → decode? q = some (pairsOf params)) ∧
    ((∃ q, encode params = .ok q) ↔ ∀ m ∈ params, ∀ v ∈ values m.2, IsShort v) ∧
    (∀ dialect t, Json.read dialect t = .ok (.obj params) →
      ∃ q, encode params = .ok q ∧ decode? q = some (pairsOf params)) := by
  have back (q : Text) (encoded : encode params = .ok q) : decode? q = some (pairsOf params) := by
    rw [(encode_iff.mp encoded).2]
    exact decode?_join (encodable_of_mem_pairsOf readable)
  refine ⟨back, exists_encode_iff readable, fun dialect t read => ?_⟩
  obtain ⟨q, encoded⟩ := (exists_encode_iff readable).mpr (isShort_of_read read)
  exact ⟨q, encoded, back q encoded⟩

theorem awkward_pairs_decoded :
    let t := Text.ofString
      "\x7b\"a=b&c%\": \"+ \\u00fc\", \"\": [-3, true, null, [1], \"\"], \"e\": []\x7d"
    ∃ params q, Json.read .strict t = .ok (.obj params) ∧ encode params = .ok q ∧
      decode? q = some [(Text.ofString "a=b&c%", Text.ofString "+ ü"), ([], Text.ofString "-3"),
        ([], Text.ofString "true"), ([], []), ([], []), ([], [])] := by
  intro t
  let params : Json.Members := [(Text.ofString "a=b&c%", .str (Text.ofString "+ ü")),
    ([], .arr [.int (-3), .bool true, .null, .arr [.int 1], .str []]), (Text.ofString "e", .arr [])]
  have read : Json.read .strict t = .ok (.obj params) := by rfl
  have readable : isEncodable params = true := by rfl
  obtain ⟨q, encoded, decoded⟩ := (decode_encode readable).2.2 .strict t read
  exact ⟨params, q, read, encoded, decoded⟩

end Query

end RequestLine
