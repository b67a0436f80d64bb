import RequestLine.Proofs.Json.Bars
import RequestLine.Proofs.Line.Language

set_option autoImplicit false

namespace RequestLine.Line

open Text (escapeBars separator halfSeparator not_separator_of_notMem)

def write (m : Method) (u : Text) (headers : Option Json.Members) (query : Json.Members)
    (body : Json) : Text :=
  "HTTP " ++ Text.ofString m.name ++ " | URL " ++ u ++
    (match headers with
      | none => []
      | some members => Text.ofString " | HEADERS " ++ escapeBars (Json.write (.obj members))) ++
    " | QUERY " ++ escapeBars (Json.write (.obj query)) ++
    " | BODY " ++ escapeBars body.write

structure Writable [Runtime] (v : Json) : Prop where
  recoverable : v.Obeys Json.recoverable
  shallow : v.depth ≤ Runtime.nesting

def sectionPart (s : Section) : Text :=
  Text.ofString s.keyword.name ++ (.char ' ' :: escapeBars s.value.write)

theorem isSection_sectionPart [Runtime] {s : Section} (fits : s.Fits)
    (writable : Writable s.value) :
    IsSection (sectionPart s) s := by
  refine ⟨escapeBars s.value.write, rfl, ?_, fits⟩
  rw [Json.strip_escapeBars_write writable.recoverable,
    Json.read_escapeBars_write .strict writable.recoverable writable.shallow]

theorem bar_notMem_sectionPart (s : Section) : Symbol.char '|' ∉ sectionPart s := by
  have name : Symbol.char '|' ∉ Text.ofString s.keyword.name := by cases s.keyword <;> decide
  simp [sectionPart, name, Text.bar_notMem_escapeBars]

def sectionsOf (headers : Option Json.Members) (query : Json.Members) (body : Json) :
    List Section :=
  (headers.map fun members => ⟨.headers, .obj members⟩).toList ++
    [⟨.query, .obj query⟩, ⟨.body, body⟩]

def partsOf (m : Method) (u : Text) (sections : List Section) : List Text :=
  (Text.ofString methodLead ++ Text.ofString m.name) :: (Text.ofString urlLead ++ u) ::
    sections.map sectionPart

theorem join_partsOf (m : Method) (u : Text) (headers : Option Json.Members)
    (query : Json.Members) (body : Json) :
    Text.join " | " (partsOf m u (sectionsOf headers query body)) =
      write m u headers query body := by
  cases headers <;> simp [partsOf, sectionsOf, sectionPart, Text.join_cons_cons,
    Text.join_singleton, write, Text.ofString, methodLead, urlLead, Keyword.name]

theorem isSplit_partsOf {m : Method} {u : Text}
    (whole : ¬ separator <:+: Text.ofString urlLead ++ u)
    (closed : ¬ halfSeparator <:+ Text.ofString urlLead ++ u) (sections : List Section) :
    Text.IsSplit (Text.join " | " (partsOf m u sections)) (partsOf m u sections) := by
  have first : Symbol.char '|' ∉ Text.ofString methodLead ++ Text.ofString m.name := by
    cases m <;> decide
  have each : ∀ part ∈ partsOf m u sections,
      ¬ separator <:+: part ∧ ¬ halfSeparator <:+ part := by
    rw [partsOf, List.forall_mem_cons, List.forall_mem_cons, List.forall_mem_map]
    exact ⟨not_separator_of_notMem first, ⟨whole, closed⟩,
      fun s _ => not_separator_of_notMem (bar_notMem_sectionPart s)⟩
  exact ⟨rfl, fun part member => (each part member).1,
    fun part member => (each part (List.dropLast_subset _ member)).2⟩

theorem last?_sectionsOf (headers : Option Json.Members) (query : Json.Members) (body : Json) :
    last? .headers (sectionsOf headers query body) = headers.map .obj ∧
      last? .query (sectionsOf headers query body) = some (.obj query) ∧
      last? .body (sectionsOf headers query body) = some body := by
  cases headers <;> exact ⟨rfl, rfl, rfl⟩

/-- Parsing undoes writing, and the query has been put behind the url. -/
theorem parse_write [Runtime] {m : Method} {u : Text} {headers : Option Json.Members}
    {query : Json.Members} {body : Json} (present : u ≠ []) (stripped : u.strip = u)
    (readable : u.isEncodable = true) (whole : ¬ separator <:+: Text.ofString "URL " ++ u)
    (closed : ¬ halfSeparator <:+ Text.ofString "URL " ++ u)
    (encodable : Query.isEncodable query = true)
    (writableHeaders : ∀ members, headers = some members → Writable (.obj members))
    (writableQuery : Writable (.obj query)) (writableBody : Writable body) :
    ∃ fullUrl, Query.extend u query = .ok fullUrl ∧
      parse (.str (write m u headers query body)) = .ok ⟨m, u, headers, query, body, fullUrl⟩ := by
  have fits : ∀ s ∈ sectionsOf headers query body, s.Fits ∧ Writable s.value := by
    rw [sectionsOf, List.forall_mem_append]
    constructor
    · cases headers with
      | none => simp
      | some members => simpa [Section.Fits] using writableHeaders members rfl
    · simpa [Section.Fits] using ⟨writableQuery, writableBody⟩
  obtain ⟨lastHeaders, lastQuery, lastBody⟩ := last?_sectionsOf headers query body
  have line : IsLine (partsOf m u (sectionsOf headers query body)) m u
      (sectionsOf headers query body) := {
    parts := ⟨_, _, _, rfl, by cases m <;> decide, stripped,
      List.forall₂_map_left_iff.mpr (List.forall₂_same.mpr fun s member =>
        isSection_sectionPart (fits s member).1 (fits s member).2)⟩
    present, readable
    encodable := fun params found => by
      rw [lastQuery] at found
      cases found
      exact encodable }
  obtain ⟨d, rfl, rfl, carries⟩ := line.exists_carries
  have parsed := parse_eq_ok.mpr ⟨_, _, isSplit_partsOf whole closed _, line, carries⟩
  rw [join_partsOf] at parsed
  have sameHeaders : d.headers = headers :=
    Option.map_injective (fun _ _ same => Json.obj.inj same) (carries.headers.trans lastHeaders)
  have sameQuery : d.query = query := by
    have same := carries.query
    rw [lastQuery] at same
    exact Json.obj.inj same
  have sameBody : d.body = body := by
    rw [carries.body, lastBody, Option.getD_some]
  refine ⟨d.fullUrl, sameQuery ▸ carries.fullUrl, ?_⟩
  rw [parsed, ← sameHeaders, ← sameQuery, ← sameBody]

theorem bars_carried :
    let u := Text.ofString "https://x.org/a|b"
    let headers : Json.Members := [(Text.ofString "a | b", .str (Text.ofString "c | d"))]
    let query : Json.Members := [(Text.ofString "q", .float (.ofDecimal false 15 (-1)))]
    let body := Json.arr [.str (Text.ofString " | BODY 1"), .null]
    parse (.str (write .post u (some headers) query body)) =
      .ok ⟨.post, u, some headers, query, body, Text.ofString "https://x.org/a|b?q=1.5"⟩ := by
  intro u headers query body
  have back : Double.ReadsBack (.ofDecimal false 15 (-1)) := by
    unfold Double.ReadsBack
    decide +kernel
  have writableHeaders : Writable (.obj headers) := by
    refine ⟨Json.recoverable_obj.mpr ⟨by decide +kernel, ?_⟩, by decide +kernel⟩
    exact List.forall_mem_singleton.mpr (Json.recoverable_str.mpr (by decide +kernel))
  have writableQuery : Writable (.obj query) := by
    refine ⟨Json.recoverable_obj.mpr ⟨by decide +kernel, ?_⟩, by decide +kernel⟩
    exact List.forall_mem_singleton.mpr (Json.recoverable_float.mpr ⟨by decide +kernel, back⟩)
  have writableBody : Writable body := by
    refine ⟨(Json.obeys_arr _).mpr ?_, by decide +kernel⟩
    simpa using Json.recoverable_str.mpr (by decide +kernel)
  obtain ⟨fullUrl, extended, parsed⟩ := parse_write (m := .post) (u := u) (by decide)
    (by decide +kernel) (by decide +kernel) (by decide +kernel) (by decide +kernel)
    (by decide +kernel)
    (fun members same => Option.some.inj same ▸ writableHeaders) writableQuery writableBody
  have full : Query.extend u query = .ok (Text.ofString "https://x.org/a|b?q=1.5") := by
    decide +kernel
  rw [parsed, Except.ok.inj (extended.symm.trans full)]

end RequestLine.Line
