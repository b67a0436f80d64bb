import RequestLine.Proofs.Line.Sections
import RequestLine.Proofs.Result
import RequestLine.Proofs.Text.Segments

set_option autoImplicit false

namespace RequestLine

structure Descriptor.Carries (d : Descriptor) (sections : List Line.Section) : Prop where
  headers : d.headers.map .obj = Line.last? .headers sections
  query : .obj d.query = (Line.last? .query sections).getD (.obj [])
  body : d.body = (Line.last? .body sections).getD (.obj [])
  fullUrl : Query.extend d.url d.query = .ok d.fullUrl

namespace Line

open Text (IsSplit)

/-- A part for the method, a part for the url and one for each section. Of the queries only the
last has to be encodable. -/
structure IsLine [Runtime] (parts : List Text) (m : Method) (u : Text) (sections : List Section) :
    Prop where
  parts : ∃ r q rest, parts =
      (Text.ofString methodLead ++ r) :: (Text.ofString urlLead ++ q) :: rest ∧
    Text.strip r = Text.ofString m.name ∧ Text.strip q = u ∧ List.Forall₂ IsSection rest sections
  present : u ≠ []
  readable : u.isEncodable = true
  encodable : ∀ params, last? .query sections = some (.obj params) →
    Query.isEncodable params = true

theorem longEnough_eq_ok {t : Text} :
    (∃ u, Check.longEnough 1 t = .ok u) ↔ t ≠ [] ∧ t.isEncodable = true := by
  unfold Check.longEnough
  cases t with
  | nil => simp
  | cons s t => cases h : Text.isEncodable (s :: t) <;> simp

theorem issues_eq_nil {d : Descriptor} :
    d.issues = [] ↔ (d.url ≠ [] ∧ d.url.isEncodable = true) ∧
      d.fullUrl ≠ [] ∧ d.fullUrl.isEncodable = true := by
  rw [Descriptor.issues, List.filterMap_eq_nil_iff]
  simp only [List.forall_mem_cons, List.not_mem_nil, false_imp_iff, implies_true, and_true]
  rw [← longEnough_eq_ok, ← longEnough_eq_ok]
  cases Check.longEnough 1 d.url <;> cases Check.longEnough 1 d.fullUrl <;> simp

theorem describe_eq_ok {m : Method} {u : Text} {values : Values} {d : Descriptor}
    (tidy : Json.Obeys Json.tidy (.obj (values.query.getD []))) :
    describe m u values = .ok d ↔ (u ≠ [] ∧ u.isEncodable = true) ∧
      ∃ fullUrl, Query.extend u (values.query.getD []) = .ok fullUrl ∧
        d = ⟨m, u, values.headers, values.query.getD [], values.body.getD (.obj []), fullUrl⟩ := by
  simp only [describe]
  cases found : Query.extend u (values.query.getD []) with
  | error fault => cases fault <;> simp
  | ok fullUrl =>
    obtain ⟨-, readable, front⟩ := (found ▸ Query.encoded_extend u tidy).of_ok
    have full (present : u ≠ []) : fullUrl ≠ [] := by
      rintro rfl
      exact present (List.prefix_nil.mp front)
    simp only [List.isEmpty_iff, issues_eq_nil, readable]
    constructor
    · intro h
      split at h
      next sound =>
        cases h
        exact ⟨sound.1, fullUrl, rfl, rfl⟩
      next => contradiction
    · rintro ⟨sound, other, same, rfl⟩
      cases same
      rw [if_pos ⟨sound, full sound.1, sound.2⟩]

theorem mem_of_last? {k : Keyword} {v : Json} {sections : List Section}
    (h : last? k sections = some v) : ⟨k, v⟩ ∈ sections := by
  obtain ⟨s, found, rfl⟩ := Option.map_eq_some_iff.mp h
  have same : s.keyword = k := by simpa using List.find?_some found
  exact same ▸ List.mem_reverse.mp (List.mem_of_find?_eq_some found)

theorem getD_query {values : Values} {sections : List Section}
    (same : ∀ k, values.value? k = last? k sections) :
    .obj (values.query.getD []) = (last? .query sections).getD (.obj []) := by
  rw [← same, Values.value?]
  cases values.query <;> rfl

theorem carries_iff {d : Descriptor} {values : Values} {sections : List Section}
    (same : ∀ k, values.value? k = last? k sections) :
    d.Carries sections ↔ d.headers = values.headers ∧ d.query = values.query.getD [] ∧
      d.body = values.body.getD (.obj []) ∧ Query.extend d.url d.query = .ok d.fullUrl := by
  have injective : Function.Injective (Option.map Json.obj) :=
    Option.map_injective fun _ _ h => Json.obj.inj h
  constructor
  · rintro ⟨headers, params, body, fullUrl⟩
    rw [← same] at headers body
    rw [← getD_query same] at params
    exact ⟨injective headers, Json.obj.inj params, body, fullUrl⟩
  · rintro ⟨headers, params, body, fullUrl⟩
    refine ⟨?_, ?_, ?_, fullUrl⟩
    · rw [headers, ← same, Values.value?]
    · rw [← getD_query same, params]
    · rw [body, ← same, Values.value?]

section

variable [Runtime]

theorem parseText_cons {t first second : Text} {rest : List Text}
    (h : t.segments = first :: second :: rest) :
    parseText t = (parseMethod first >>= fun m => parseUrl second >>= fun u =>
      parseSections {} rest >>= fun values => describe m u values) := by
  have present : t.isEmpty = false := by
    cases t with
    | nil => simp [Text.segments, Text.segmentsFrom] at h
    | cons s t => rfl
  simp [parseText, present, h]

theorem parse_cons {t first second : Text} {rest : List Text}
    (split : IsSplit t (first :: second :: rest)) :
    parse (.str t) = (parseMethod first >>= fun m => parseUrl second >>= fun u =>
      parseSections {} rest >>= fun values => describe m u values) :=
  parseText_cons (split.segments_eq (by simp))

theorem exists_isSection {parts : List Text} {sections : List Section}
    (each : List.Forall₂ IsSection parts sections) {s : Section} (member : s ∈ sections) :
    ∃ part ∈ parts, IsSection part s := by
  induction each with
  | nil => contradiction
  | cons first _ ih =>
    rcases List.mem_cons.mp member with rfl | member
    · exact ⟨_, List.mem_cons_self, first⟩
    · obtain ⟨part, inParts, holds⟩ := ih member
      exact ⟨part, List.mem_cons_of_mem _ inParts, holds⟩

theorem read_of_last? {parts : List Text} {sections : List Section}
    (each : List.Forall₂ IsSection parts sections) {k : Keyword} {v : Json}
    (h : last? k sections = some v) :
    (∃ t, Json.read .strict t = .ok v) ∧ (⟨k, v⟩ : Section).Fits := by
  obtain ⟨part, -, written, -, decoded, fits⟩ := exists_isSection each (mem_of_last? h)
  exact ⟨⟨_, decoded⟩, fits⟩

theorem tidy_of_last? {parts : List Text} {sections : List Section}
    (each : List.Forall₂ IsSection parts sections) {k : Keyword} {v : Json}
    (h : last? k sections = some v) : v.Obeys Json.tidy := by
  obtain ⟨⟨t, decoded⟩, -⟩ := read_of_last? each h
  exact Json.tidy_of_read decoded

theorem tidy_query {parts : List Text} {sections : List Section} {params : Json.Members}
    (each : List.Forall₂ IsSection parts sections)
    (h : .obj params = (last? .query sections).getD (.obj [])) :
    Json.Obeys Json.tidy (.obj params) := by
  cases found : last? .query sections with
  | none =>
    rw [found] at h
    cases h
    simp [Json.tidy, Json.keys]
  | some v =>
    rw [found] at h
    exact h ▸ tidy_of_last? each found

theorem exists_values {parts : List Text} {sections : List Section}
    (each : List.Forall₂ IsSection parts sections) :
    ∃ values : Values, ∀ k, values.value? k = last? k sections := by
  have fits {k : Keyword} (object : k ≠ .body) :
      ((last? k sections).bind Json.members?).map .obj = last? k sections := by
    cases found : last? k sections with
    | none => rfl
    | some v =>
      rcases (read_of_last? each found).2 with body | ⟨members, same⟩
      · contradiction
      · cases same
        rfl
  refine ⟨⟨(last? .headers sections).bind Json.members?,
    (last? .query sections).bind Json.members?, last? .body sections⟩, fun k => ?_⟩
  cases k with
  | headers => exact fits (by decide)
  | query => exact fits (by decide)
  | body => rfl

theorem parse_eq_ok {t : Text} {d : Descriptor} :
    parse (.str t) = .ok d ↔ ∃ parts sections, IsSplit t parts ∧
      IsLine parts d.method d.url sections ∧ d.Carries sections := by
  constructor
  -- The parts are those that the parser cuts, each read by its own stage.
  · intro h
    change parseText t = .ok d at h
    obtain ⟨first, second, rest, split⟩ : ∃ first second rest,
        t.segments = first :: second :: rest := by
      match parts : t.segments with
      | [] => exact absurd parts t.segments_ne_nil
      | [only] =>
        rw [parseText, parts] at h
        split at h <;> contradiction
      | first :: second :: rest => exact ⟨first, second, rest, rfl⟩
    simp only [parseText_cons split, bind_eq_ok, parseMethod_eq_ok, parseUrl_eq_ok,
      parseSections_empty] at h
    obtain ⟨m, ⟨r, rfl, method⟩, u, ⟨q, rfl, rfl, present⟩, values, ⟨sections, each, same⟩, h⟩ := h
    have tidy := tidy_query each (getD_query same)
    obtain ⟨⟨-, readable⟩, fullUrl, extended, rfl⟩ := (describe_eq_ok tidy).mp h
    have encodable := (extended ▸ Query.encoded_extend q.strip tidy).of_ok.1
    refine ⟨_, sections, split ▸ Text.isSplit_segments t, ?_,
      (carries_iff same).mpr ⟨rfl, rfl, rfl, extended⟩⟩
    refine ⟨⟨r, q, rest, rfl, method, rfl, each⟩, present, readable, fun params found => ?_⟩
    have held : values.query = some params := by
      simpa [Values.value?] using (same .query).trans found
    rwa [held] at encodable
  -- The split is the only one, so the parser cuts just these parts.
  · rintro ⟨parts, sections, split, line, carries⟩
    obtain ⟨r, q, rest, rfl, method, url, each⟩ := line.parts
    obtain ⟨values, same⟩ := exists_values each
    obtain ⟨headers, params, body, extended⟩ := (carries_iff same).mp carries
    change parseText t = .ok d
    simp only [parseText_cons (split.segments_eq (by simp)), bind_eq_ok, parseMethod_eq_ok,
      parseUrl_eq_ok, parseSections_empty]
    refine ⟨d.method, ⟨r, rfl, method⟩, d.url, ⟨q, rfl, url, line.present⟩, values,
      ⟨sections, each, same⟩, ?_⟩
    rw [describe_eq_ok (params ▸ tidy_query each carries.query)]
    refine ⟨⟨line.present, line.readable⟩, d.fullUrl, params ▸ extended, ?_⟩
    rw [← headers, ← params, ← body]

theorem isLine_of_parse {v : Json} {d : Descriptor} (h : parse v = .ok d) :
    ∃ parts sections, IsLine parts d.method d.url sections ∧ d.Carries sections := by
  cases v with
  | str t =>
    obtain ⟨parts, sections, -, line, carries⟩ := parse_eq_ok.mp h
    exact ⟨parts, sections, line, carries⟩
  | _ => contradiction

theorem tidy_of_parse {v : Json} {d : Descriptor} (h : parse v = .ok d) :
    (∀ members, d.headers = some members → Json.Obeys Json.tidy (.obj members)) ∧
      Json.Obeys Json.tidy (.obj d.query) ∧ d.body.Obeys Json.tidy := by
  obtain ⟨parts, sections, line, carries⟩ := isLine_of_parse h
  obtain ⟨r, q, rest, -, -, -, each⟩ := line.parts
  refine ⟨fun members held => ?_, tidy_query each carries.query, ?_⟩
  · have found := carries.headers
    rw [held] at found
    exact tidy_of_last? each found.symm
  · rw [carries.body]
    cases found : last? .body sections with
    | none => simp [Json.tidy, Json.keys]
    | some v => exact tidy_of_last? each found

theorem encodable_of_parse {v : Json} {d : Descriptor} (h : parse v = .ok d) :
    Query.isEncodable d.query = true ∧ d.fullUrl.isEncodable = true := by
  obtain ⟨parts, sections, line, carries⟩ := isLine_of_parse h
  have encoded := Query.encoded_extend d.url (tidy_of_parse h).2.1
  rw [carries.fullUrl] at encoded
  exact ⟨encoded.of_ok.1, encoded.of_ok.2.1.trans line.readable⟩

theorem IsLine.method_url_unique {parts : List Text} {m n : Method} {u v : Text}
    {sections others : List Section} (line : IsLine parts m u sections)
    (other : IsLine parts n v others) : m = n ∧ u = v := by
  obtain ⟨r, q, rest, rfl, method, url, -⟩ := line.parts
  obtain ⟨r', q', rest', same, method', url', -⟩ := other.parts
  simp only [List.cons.injEq, List.append_cancel_left_eq] at same
  obtain ⟨rfl, rfl, -⟩ := same
  have names := (Method.ofText?_eq_some.mpr method).symm.trans (Method.ofText?_eq_some.mpr method')
  exact ⟨Option.some.inj names, url.symm.trans url'⟩

theorem IsLine.exists_carries {parts : List Text} {m : Method} {u : Text}
    {sections : List Section} (line : IsLine parts m u sections) :
    ∃ d : Descriptor, d.method = m ∧ d.url = u ∧ d.Carries sections := by
  obtain ⟨r, q, rest, rfl, -, -, each⟩ := line.parts
  obtain ⟨values, same⟩ := exists_values each
  have encodable : Query.isEncodable (values.query.getD []) = true := by
    cases held : values.query with
    | none => rfl
    | some params => exact line.encodable params (by simp [← same, Values.value?, held])
  have encoded := Query.encoded_extend u (tidy_query each (getD_query same))
  obtain ⟨fullUrl, extended, -⟩ := (encodable ▸ encoded).eq_ok
  exact ⟨⟨m, u, values.headers, values.query.getD [], values.body.getD (.obj []), fullUrl⟩, rfl,
    rfl, (carries_iff same).mpr ⟨rfl, rfl, rfl, extended⟩⟩

/-- The accepted texts are those with a split that is a line. The split is the only one, and method
and url of the descriptor are those of the line. -/
theorem parse_ok_iff_isLine (t : Text) :
    ((∃ d, parse (.str t) = .ok d) ↔ ∃ parts m u sections,
      2 ≤ parts.length ∧ IsSplit t parts ∧ IsLine parts m u sections) ∧
    (∀ parts others, 2 ≤ parts.length → 2 ≤ others.length →
      IsSplit t parts → IsSplit t others → parts = others) ∧
    ∀ d parts m u sections, parse (.str t) = .ok d → 2 ≤ parts.length → IsSplit t parts →
      IsLine parts m u sections → d.method = m ∧ d.url = u := by
  have some {parts : List Text} (two : 2 ≤ parts.length) : parts ≠ [] := by
    rintro rfl
    contradiction
  refine ⟨⟨?_, ?_⟩, ?_, ?_⟩
  · rintro ⟨d, h⟩
    obtain ⟨parts, sections, split, line, -⟩ := parse_eq_ok.mp h
    obtain ⟨r, q, rest, rfl, -⟩ := line.parts
    exact ⟨_, d.method, d.url, sections, by simp, split, line⟩
  · rintro ⟨parts, m, u, sections, -, split, line⟩
    obtain ⟨d, rfl, rfl, carries⟩ := line.exists_carries
    exact ⟨d, parse_eq_ok.mpr ⟨parts, sections, split, line, carries⟩⟩
  · intro parts others two twoOther split other
    exact split.unique (some two) (some twoOther) other
  · intro d parts m u sections h two split line
    obtain ⟨others, sections', split', line', -⟩ := parse_eq_ok.mp h
    obtain ⟨r, q, rest, rfl, -⟩ := line'.parts
    rw [split.unique (some two) (by simp) split'] at line
    exact line'.method_url_unique line

end

theorem url_ending_in_bar_accepted :
    ∃ d, parse (.str (Text.ofString "HTTP GET | URL a |")) = .ok d ∧ d.method = .get ∧
      d.url = Text.ofString "a |" := by
  have split : IsSplit (Text.ofString "HTTP GET | URL a |")
      [Text.ofString "HTTP GET", Text.ofString "URL a |"] :=
    Text.isSplit_segments (Text.ofString "HTTP GET | URL a |")
  have line : IsLine [Text.ofString "HTTP GET", Text.ofString "URL a |"] .get
      (Text.ofString "a |") [] :=
    ⟨⟨Text.ofString "GET", Text.ofString "a |", [], by decide, by decide, by decide, .nil⟩,
      by decide, by decide, fun params found => by contradiction⟩
  obtain ⟨accepted, -, only⟩ := parse_ok_iff_isLine (Text.ofString "HTTP GET | URL a |")
  obtain ⟨d, parsed⟩ := accepted.mpr ⟨_, _, _, _, by decide, split, line⟩
  exact ⟨d, parsed, only d _ _ _ _ parsed (by decide) split line⟩

end Line

end RequestLine
