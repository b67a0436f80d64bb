import RequestLine.Proofs.Query.Escaped
import RequestLine.Proofs.Text.Cut
import RequestLine.Proofs.Text.Join

set_option autoImplicit false

namespace RequestLine

theorem Text.last_mark_unique {s : Symbol} {before before' after after' : Text}
    (absent : s ∉ after) (absent' : s ∉ after')
    (same : before ++ s :: after = before' ++ s :: after') : before = before' ∧ after = after' := by
  -- Read backwards, the mark is the first one.
  have first : cut? s (before ++ s :: after).reverse = some (after.reverse, before.reverse) :=
    cut?_eq_some.mpr ⟨by simp, by simpa using absent⟩
  have first' : cut? s (before' ++ s :: after').reverse = some (after'.reverse, before'.reverse) :=
    cut?_eq_some.mpr ⟨by simp, by simpa using absent'⟩
  rw [same, first', Option.some.injEq, Prod.mk.injEq, List.reverse_inj, List.reverse_inj] at first
  exact ⟨first.2.symm, first.1.symm⟩

def Json.elements? : Json → Option (List Json)
  | .arr elements => some elements
  | _ => none

namespace Query

def pairCount (params : Json.Members) : Nat :=
  params.countP (fun m => m.2.elements?.isNone) +
    (params.flatMap fun m => m.2.elements?.getD []).length

theorem length_memberPairs (m : Text × Json) : (memberPairs m).length = pairCount [m] := by
  obtain ⟨key, v⟩ := m
  cases v <;> simp [memberPairs, values, pairCount, Json.elements?]

theorem length_pairsOf (params : Json.Members) : (pairsOf params).length = pairCount params := by
  induction params with
  | nil => rfl
  | cons m params ih =>
    have first := length_memberPairs m
    simp only [pairsOf, pairCount, List.flatMap_cons, List.length_append, List.countP_cons,
      List.flatMap_nil, List.length_nil, List.countP_nil] at *
    omega

def IsInert (s : Symbol) : Prop :=
  ∃ c, s = .char c ∧ 0x20 < c.toNat ∧ c.toNat < 0x7F ∧ c ∉ ['?', '#', '/']

theorem isInert_of_isQuoted {s : Symbol} (quoted : IsQuoted s) : IsInert s := by
  obtain ⟨c, rfl, plain | rfl⟩ := quoted
  · have bounds := isPlain_bounds plain
    refine ⟨c, rfl, bounds.1, bounds.2, fun mark => ?_⟩
    have marks : ['?', '#', '/'].all (fun d => !isPlain d) = true := by decide
    have reserved := List.all_eq_true.mp marks c mark
    simp [plain] at reserved
  · exact ⟨'%', rfl, by decide⟩

theorem isInert_pair {part : Text} (pair : IsPair part) : ∀ s ∈ part, IsInert s := by
  cases pair with
  | intro left right =>
    have each {t : Text} (escaped : Escaped t) : ∀ s ∈ t, IsInert s := fun s member =>
      isInert_of_isQuoted (escaped.isQuoted s member)
    exact List.forall_mem_append.mpr
      ⟨each left, List.forall_mem_cons.mpr ⟨⟨'=', rfl, by decide⟩, each right⟩⟩

theorem isInert_of_encode {params : Json.Members} {q : Text} (encoded : encode params = .ok q) :
    ∀ s ∈ q, IsInert s := by
  rw [(encode_iff.mp encoded).2]
  exact Text.forall_mem_join (by simpa [Text.ofString] using ⟨'&', rfl, by decide⟩)
    (List.forall_mem_map.mpr fun p _ => isInert_pair (isPair_pairText p))

theorem mark_not_mem {q : Text} (inert : ∀ s ∈ q, IsInert s) : Symbol.char '?' ∉ q := by
  intro member
  obtain ⟨c, same, -, -, other⟩ := inert _ member
  cases same
  simp at other

theorem extend_eq_ok {url full : Text} {params : Json.Members} :
    extend url params = .ok full ↔ params = [] ∧ full = url ∨
      params ≠ [] ∧ ∃ q, encode params = .ok q ∧ full = url ++ Symbol.char '?' :: q := by
  unfold extend
  cases params with
  | nil => simp [eq_comm]
  | cons m params => simp [map_eq_ok, @eq_comm _ full]

/-- Whatever the members are, the query string is made of escaped pairs, as many as there are
values; and a url that it is put behind keeps its extent. -/
theorem query_canonical (url : Text) (params : Json.Members) :
    (∀ q, encode params = .ok q → ∃ parts, q = Text.join "&" parts ∧
      (∀ part ∈ parts, IsPair part ∧ part.count (.char '=') = 1 ∧ Symbol.char '&' ∉ part) ∧
      parts.length = pairCount params) ∧
    (extend url params = .ok url ↔ params = []) ∧
    (params ≠ [] → ∀ full, extend url params = .ok full ↔
      ∃ q, encode params = .ok q ∧ full = url ++ Symbol.char '?' :: q) ∧
    (∀ q, encode params = .ok q → (∀ s ∈ q, IsInert s) ∧
      ∀ before after, url ++ Symbol.char '?' :: q = before ++ Symbol.char '?' :: after →
        Symbol.char '?' ∉ after → before = url ∧ after = q) := by
  refine ⟨fun q encoded => ?pairs, ?alone, fun some full => ?behind, fun q encoded => ?inert⟩
  case pairs =>
    refine ⟨(pairsOf params).map pairText, (encode_iff.mp encoded).2, ?_, ?_⟩
    · refine List.forall_mem_map.mpr fun p _ => ?_
      have pair := isPair_pairText p
      exact ⟨pair, pair.count_equals, pair.ampersand_not_mem⟩
    · rw [List.length_map, length_pairsOf]
  case alone =>
    rw [extend_eq_ok]
    constructor
    · rintro (⟨empty, -⟩ | ⟨-, q, -, same⟩)
      · exact empty
      · have := congrArg List.length same
        simp at this
    · exact fun empty => .inl ⟨empty, rfl⟩
  case behind => simp [extend_eq_ok, some]
  case inert =>
    have inert := isInert_of_encode encoded
    refine ⟨inert, fun before after same absent => ?_⟩
    exact Text.last_mark_unique absent (mark_not_mem inert) same.symm

theorem marks_stay_inside :
    let url := Text.ofString "http://x.test/p#top"
    let params : Json.Members := [(Text.ofString "a&b", .str (Text.ofString "/?#")),
      (Text.ofString "n", .arr [.float (.infinite true), .bool true]), (Text.ofString "e", .arr [])]
    let q := Text.ofString "a%26b=%2F%3F%23&n=-inf&n=true"
    extend url params = .ok (url ++ Symbol.char '?' :: q) ∧ extend url params ≠ .ok url ∧
      (∃ parts, q = Text.join "&" parts ∧ (∀ part ∈ parts, IsPair part) ∧ parts.length = 3) ∧
      (∀ s ∈ q, IsInert s) := by
  intro url params q
  have encoded : encode params = .ok q := by rfl
  have some : params ≠ [] := by simp [params]
  obtain ⟨pairs, alone, behind, inert⟩ := query_canonical url params
  obtain ⟨parts, joined, each, length⟩ := pairs q encoded
  refine ⟨(behind some _).mpr ⟨q, encoded, rfl⟩, fun same => some (alone.mp same), ?_,
    (inert q encoded).1⟩
  exact ⟨parts, joined, fun part member => (each part member).1, length⟩

end Query

end RequestLine
