import RequestLine.Proofs.Json.Origin
import RequestLine.Proofs.Line.Language

set_option autoImplicit false

namespace RequestLine

namespace Text

theorem getLast?_halfSeparator {t : Text} (half : halfSeparator <:+ t) :
    t.getLast? = some (.char '|') := by
  obtain ⟨front, rfl⟩ := half
  exact List.getLast?_append_cons front _ _

theorem segments_half {q : Text} (whole : ¬ separator <:+: q ++ halfSeparator) (rest : Text) :
    ∃ after more, (q ++ halfSeparator ++ separator ++ rest).segments =
      q :: (.char '|' :: after) :: more := by
  have inside : ¬ separator <:+: q := fun found =>
    whole (found.trans (List.prefix_append q _).isInfix)
  have closed : ¬ halfSeparator <:+ q := by
    rintro ⟨front, rfl⟩
    exact whole ⟨front, [.char '|'], by simp [separator_eq, halfSeparator_eq]⟩
  have moved : q ++ halfSeparator ++ separator ++ rest =
      q ++ separator ++ (.char '|' :: .char ' ' :: rest) := by
    simp [separator_eq, halfSeparator_eq]
  have bar : ¬ separator <+: .char '|' :: .char ' ' :: rest := by simp [separator_eq]
  obtain ⟨after, more, parts⟩ := List.exists_cons_of_ne_nil (segmentsOf_ne_nil (.char ' ' :: rest))
  refine ⟨after, more, ?_⟩
  rw [segments_eq, moved, segmentsOf_append _ inside closed, segmentsOf_cons bar, parts,
    List.modifyHead_cons]

end Text

namespace Line

open Text (IsSplit separator halfSeparator)

theorem last?_eq_none {k : Keyword} {sections : List Section} :
    last? k sections = none ↔ ∀ s ∈ sections, s.keyword ≠ k := by
  simp [last?]

theorem describe_filled {k : Keyword} (optional : k ≠ .headers) {values filled : Values}
    (absent : values.value? k = none)
    (fills : ∀ l, filled.value? l = if k = l then some (.obj []) else values.value? l)
    (m : Method) (u : Text) : describe m u filled = describe m u values := by
  cases k with
  | headers => contradiction
  | query =>
    have none : values.query = none := Option.map_eq_none_iff.mp absent
    obtain rfl : filled = { values with query := some [] } :=
      Values.ext fun l => (fills l).trans (by cases l <;> rfl)
    simp only [describe, none]
    rfl
  | body =>
    have none : values.body = none := absent
    obtain rfl : filled = { values with body := some (.obj []) } :=
      Values.ext fun l => (fills l).trans (by cases l <;> rfl)
    simp only [describe, none]
    rfl

theorem last?_insert {k : Keyword} {before after : List Section}
    (absent : ∀ s ∈ before ++ after, s.keyword ≠ k) (v : Json) (l : Keyword) :
    last? l (before ++ ⟨k, v⟩ :: after) = if k = l then some v else last? l (before ++ after) := by
  rw [last?_append, last?_cons, last?_append]
  split
  next same =>
    subst same
    rw [← last?_eq_none, last?_append, Option.or_eq_none_iff] at absent
    rw [absent.1]
    rfl
  next => rw [Option.or_none]

section

variable [Runtime]

theorem IsSection.closed {part : Text} {s : Section} (h : IsSection part s) :
    ¬ halfSeparator <:+ part := by
  intro half
  obtain ⟨written, rfl, decoded, -⟩ := h
  obtain ⟨last, found, other⟩ := (Json.numbersOf_read decoded).2
  obtain ⟨before, after, same, -, blank⟩ := Text.exists_strip written
  have bar := Text.getLast?_halfSeparator half
  rw [same] at bar
  rcases List.eq_nil_or_concat' after with rfl | ⟨front, tail, rfl⟩
  · have moved : Text.ofString s.keyword.name ++ .char ' ' :: (before ++ (written.strip ++ [])) =
        Text.ofString s.keyword.name ++ .char ' ' :: before ++ written.strip := by simp
    rw [moved, List.getLast?_append, found, Option.some_or] at bar
    exact other (Option.some.inj bar)
  · have moved : Text.ofString s.keyword.name ++
          .char ' ' :: (before ++ (written.strip ++ (front ++ [tail]))) =
        Text.ofString s.keyword.name ++ .char ' ' :: (before ++ (written.strip ++ front)) ++
          [tail] := by simp
    rw [moved, List.getLast?_concat] at bar
    have solid := blank tail (by simp)
    rw [Option.some.inj bar] at solid
    exact absurd solid (by decide)

theorem closed_of_sections {parts : List Text} {sections : List Section}
    (each : List.Forall₂ IsSection parts sections) : ∀ part ∈ parts, ¬ halfSeparator <:+ part := by
  induction each with
  | nil => simp
  | cons first _ ih => exact List.forall_mem_cons.mpr ⟨first.closed, ih⟩

theorem exists_opening {first second : Text} (wholeFirst : ¬ separator <:+: first)
    (wholeSecond : ¬ separator <:+: second) (closed : ¬ halfSeparator <:+ second) :
    ∃ opening : Except Failure (Method × Text), ∀ {rest : List Text} {sections : List Section}
      {values : Values}, (∀ part ∈ rest, ¬ separator <:+: part) →
        List.Forall₂ IsSection rest sections → (∀ k, values.value? k = last? k sections) →
        parse (.str (Text.join " | " (first :: second :: rest))) =
          opening >>= fun o => describe o.1 o.2 values := by
  by_cases half : halfSeparator <:+ first
  · obtain ⟨q, rfl⟩ := half
    refine ⟨parseMethod q >>= fun _ => .error (.rejected .missingUrlKeyword), ?_⟩
    intro rest sections values whole each same
    obtain ⟨after, more, parts⟩ := Text.segments_half wholeFirst (Text.join " | " (second :: rest))
    have failed : parseUrl (.char '|' :: after) = .error (.rejected .missingUrlKeyword) := rfl
    rw [Text.join_cons _ (by simp)]
    change parseText _ = _
    rw [parseText_cons parts]
    cases parseMethod q <;> simp [failed]
  · refine ⟨parseMethod first >>= fun m => parseUrl second >>= fun u => .ok (m, u), ?_⟩
    intro rest sections values whole each same
    have split : IsSplit (Text.join " | " (first :: second :: rest)) (first :: second :: rest) := by
      have all : ∀ part ∈ first :: second :: rest, ¬ halfSeparator <:+ part :=
        List.forall_mem_cons.mpr ⟨half, List.forall_mem_cons.mpr ⟨closed, closed_of_sections each⟩⟩
      have wholes : ∀ part ∈ first :: second :: rest, ¬ separator <:+: part :=
        List.forall_mem_cons.mpr ⟨wholeFirst, List.forall_mem_cons.mpr ⟨wholeSecond, whole⟩⟩
      exact ⟨rfl, wholes, fun part member => all part (List.dropLast_subset _ member)⟩
    have read : parseSections {} rest = .ok values :=
      parseSections_empty.mpr ⟨sections, each, same⟩
    rw [parse_cons split]
    cases parseMethod first <;> cases parseUrl second <;> simp [read]

/-- Behind the same two parts only the last value of each keyword counts. An empty query or body is
as good as none, while there are no headers exactly if there is no section for them. -/
theorem last_sections_decide {first second : Text} (wholeFirst : ¬ separator <:+: first)
    (wholeSecond : ¬ separator <:+: second) (closed : ¬ halfSeparator <:+ second)
    {rest others : List Text} {sections sections' : List Section}
    (whole : ∀ part ∈ rest ++ others, ¬ separator <:+: part)
    (each : List.Forall₂ IsSection rest sections)
    (each' : List.Forall₂ IsSection others sections') :
    ((∀ k, last? k sections = last? k sections') →
      parse (.str (Text.join " | " (first :: second :: rest))) =
        parse (.str (Text.join " | " (first :: second :: others)))) ∧
    (∀ k part before after, k ≠ .headers → (∀ s ∈ sections, s.keyword ≠ k) →
      rest = before ++ after → IsSection part ⟨k, .obj []⟩ → ¬ separator <:+: part →
      parse (.str (Text.join " | " (first :: second :: (before ++ part :: after)))) =
        parse (.str (Text.join " | " (first :: second :: rest)))) ∧
    ∀ d, parse (.str (Text.join " | " (first :: second :: rest))) = .ok d →
      (d.headers = none ↔ ∀ s ∈ sections, s.keyword ≠ .headers) := by
  obtain ⟨wholeRest, wholeOthers⟩ := List.forall_mem_append.mp whole
  obtain ⟨opening, parsed⟩ := exists_opening wholeFirst wholeSecond closed
  obtain ⟨values, same⟩ := exists_values each
  have here := parsed wholeRest each same
  refine ⟨fun agree => ?_, ?_, fun d accepted => ?_⟩
  · rw [here, parsed wholeOthers each' fun k => (same k).trans (agree k)]
  · rintro k part before after optional absent rfl holds wholePart
    have front := List.forall₂_take before.length each
    have back := List.forall₂_drop before.length each
    rw [List.take_left] at front
    rw [List.drop_left] at back
    have inserted := List.rel_append front (.cons holds back)
    obtain ⟨filled, fills⟩ := exists_values inserted
    have wholeInserted : ∀ p ∈ before ++ part :: after, ¬ separator <:+: p := by
      rw [List.forall_mem_append] at wholeRest ⊢
      exact ⟨wholeRest.1, List.forall_mem_cons.mpr ⟨wholePart, wholeRest.2⟩⟩
    rw [here, parsed wholeInserted inserted fills]
    congr 1
    funext o
    refine describe_filled optional ((same k).trans (last?_eq_none.mpr absent)) (fun l => ?_) _ _
    rw [fills, same, last?_insert (by rwa [List.take_append_drop]), List.take_append_drop]
  · rw [here, bind_eq_ok] at accepted
    obtain ⟨⟨m, u⟩, -, described⟩ := accepted
    obtain ⟨-, fullUrl, -, rfl⟩ :=
      (describe_eq_ok (tidy_query each (getD_query same))).mp described
    rw [← last?_eq_none, ← same .headers]
    exact Option.map_eq_none_iff.symm

end

theorem replaced_query_ignored :
    let line (sections : List Text) : Json :=
      .str (Text.join " | " (Text.ofString "HTTP GET" :: Text.ofString "URL x" :: sections))
    let lone := Text.ofString "QUERY \x7b\"a\": \"\\udead\"\x7d"
    let empty := Text.ofString "QUERY \x7b\x7d"
    let body := Text.ofString "BODY 1"
    parse (line [lone, body, empty]) = parse (line [empty, body]) ∧
      parse (line [empty, body]) = parse (line [body]) := by
  intro line lone empty body
  have isLone : IsSection lone ⟨.query, .obj [(Text.ofString "a", .str [.lone 0x6AD])]⟩ :=
    ⟨Text.ofString "\x7b\"a\": \"\\udead\"\x7d", rfl, rfl, .inr ⟨_, rfl⟩⟩
  have isEmpty : IsSection empty ⟨.query, .obj []⟩ :=
    ⟨Text.ofString "\x7b\x7d", rfl, rfl, .inr ⟨_, rfl⟩⟩
  have isBody : IsSection body ⟨.body, .int 1⟩ := ⟨Text.ofString "1", rfl, rfl, .inl rfl⟩
  have whole : ∀ part ∈ [Text.ofString "HTTP GET", Text.ofString "URL x", lone, empty, body],
      ¬ separator <:+: part := by decide +kernel
  simp only [List.forall_mem_cons] at whole
  obtain ⟨wholeFirst, wholeSecond, wholeLone, wholeEmpty, wholeBody, -⟩ := whole
  have closed : ¬ halfSeparator <:+ Text.ofString "URL x" := by decide
  constructor
  · have last : ∀ k, last? k [⟨.query, .obj [(Text.ofString "a", .str [.lone 0x6AD])]⟩,
        ⟨.body, .int 1⟩, ⟨.query, .obj []⟩] = last? k [⟨.query, .obj []⟩, ⟨.body, .int 1⟩] :=
      fun k => by cases k <;> rfl
    exact (last_sections_decide wholeFirst wholeSecond closed (by simp [*])
      (.cons isLone (.cons isBody (.cons isEmpty .nil))) (.cons isEmpty (.cons isBody .nil))).1 last
  · exact (last_sections_decide wholeFirst wholeSecond closed (by simp [*])
      (.cons isBody .nil) (.cons isBody .nil)).2.1 .query empty [] [body] (by decide) (by simp) rfl
        isEmpty wholeEmpty

theorem IsSection.unique [Runtime] {part : Text} {s s' : Section} (h : IsSection part s)
    (h' : IsSection part s') : s = s' := by
  obtain ⟨k, v⟩ := s
  obtain ⟨l, v'⟩ := s'
  obtain ⟨written, rfl, decoded, -⟩ := h
  obtain ⟨written', same, decoded', -⟩ := h'
  have cut := cut?_keyword l written'
  rw [← same, cut?_keyword] at cut
  obtain ⟨names, rfl⟩ := Prod.mk.inj (Option.some.inj cut)
  obtain rfl : l = k := Option.some.inj
    ((Keyword.ofText?_eq_some.mpr rfl).symm.trans (Keyword.ofText?_eq_some.mpr names.symm))
  obtain rfl : v = v' := Except.ok.inj (decoded.symm.trans decoded')
  rfl

def isBody (part : Text) : Bool := (Text.ofString "BODY ").isPrefixOf part

theorem IsSection.isBody_eq [Runtime] {part : Text} {s : Section} (h : IsSection part s) :
    isBody part = decide (s.keyword = .body) := by
  obtain ⟨written, rfl, -⟩ := h
  cases s.keyword <;> rfl

theorem last?_filter {k : Keyword} (other : k ≠ .body) (sections : List Section) :
    last? k (sections.filter fun s => !decide (s.keyword = .body)) = last? k sections := by
  induction sections with
  | nil => rfl
  | cons s sections ih =>
    by_cases body : s.keyword = .body
    · rw [List.filter_cons_of_neg (by simp [body]), last?_cons, ih, body, if_neg other.symm,
        Option.or_none]
    · rw [List.filter_cons_of_pos (by simp [body]), last?_cons, last?_cons, ih]

theorem parse_without_bodies [Runtime] {t t' : Text} {d d' : Descriptor}
    (parsed : parse (.str t) = .ok d) (parsed' : parse (.str t') = .ok d')
    (same : t.segments.filter (!isBody ·) = t'.segments.filter (!isBody ·)) :
    d' = { d with body := d'.body } := by
  have filtered {parts : List Text} {sections : List Section}
      (each : List.Forall₂ IsSection parts sections) :
      List.Forall₂ IsSection (parts.filter (!isBody ·))
        (sections.filter fun s => !decide (s.keyword = .body)) := by
    refine List.rel_filter (fun part s holds => ?_) each
    simp only [holds.isBody_eq]
  obtain ⟨parts, sections, split, line, carries⟩ := parse_eq_ok.mp parsed
  obtain ⟨parts', sections', split', line', carries'⟩ := parse_eq_ok.mp parsed'
  obtain ⟨r, q, rest, rfl, method, url, each⟩ := line.parts
  obtain ⟨r', q', rest', rfl, method', url', each'⟩ := line'.parts
  have kept (r q : Text) (rest : List Text) :
      ((Text.ofString methodLead ++ r) :: (Text.ofString urlLead ++ q) :: rest).filter
          (!isBody ·) =
        (Text.ofString methodLead ++ r) :: (Text.ofString urlLead ++ q) ::
          rest.filter (!isBody ·) := rfl
  rw [split.segments_eq (by simp), split'.segments_eq (by simp), kept, kept] at same
  simp only [List.cons.injEq, List.append_cancel_left_eq] at same
  obtain ⟨rfl, rfl, same⟩ := same
  -- The remaining parts are the same, and so are the sections that they stand for.
  have unique : Relator.RightUnique IsSection := fun _ _ _ => IsSection.unique
  have sameSections := List.right_unique_forall₂' unique (filtered each) (same ▸ filtered each')
  have last {k : Keyword} (other : k ≠ .body) : last? k sections = last? k sections' := by
    rw [← last?_filter other, sameSections, last?_filter other]
  have sameMethod : d'.method = d.method := Option.some.inj
    ((Method.ofText?_eq_some.mpr method').symm.trans (Method.ofText?_eq_some.mpr method))
  have sameUrl : d'.url = d.url := url'.symm.trans url
  have sameHeaders : d'.headers = d.headers :=
    Option.map_injective (fun _ _ h => Json.obj.inj h)
      (carries'.headers.trans ((last (by decide)).symm.trans carries.headers.symm))
  have sameQuery : d'.query = d.query := Json.obj.inj (by
    rw [carries'.query, carries.query, last (by decide)])
  have sameFull : d'.fullUrl = d.fullUrl := Except.ok.inj (by
    rw [← carries'.fullUrl, ← carries.fullUrl, sameUrl, sameQuery])
  obtain ⟨m, u, headers, query, body, fullUrl⟩ := d'
  simp_all

end Line

end RequestLine
