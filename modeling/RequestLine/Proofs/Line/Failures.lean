import RequestLine.Proofs.Line.Language

set_option autoImplicit false

namespace RequestLine.Line

open Text (IsSplit)

structure IsOpening (first second : Text) (m : Method) (u : Text) : Prop where
  method : ∃ r, first = Text.ofString methodLead ++ r ∧ r.strip = Text.ofString m.name
  url : ∃ q, second = Text.ofString urlLead ++ q ∧ q.strip = u
  present : u ≠ []

def NestsTooDeep [Runtime] (part : Text) : Prop :=
  ∃ (k : Keyword) (written : Text), part = Text.ofString k.name ++ (.char ' ' :: written) ∧
    Json.read .strict written.strip = .error .tooDeep

def unreadableUrl : List Issue :=
  [⟨[Text.ofString "url"], .notUnicode⟩, ⟨[Text.ofString "full_url"], .notUnicode⟩]

def Ordinary {α : Type} (r : Except Failure α) : Prop :=
  (∃ a, r = .ok a) ∨ ∃ why, r = .error (.rejected why)

theorem Ordinary.bind {α β : Type} {r : Except Failure α} {f : α → Except Failure β}
    {fault : Failure} (h : Ordinary r) (other : ∀ why, fault ≠ .rejected why) :
    r >>= f = .error fault ↔ ∃ a, r = .ok a ∧ f a = .error fault := by
  rw [bind_eq_error]
  constructor
  · rintro (failed | later)
    · rcases h with ⟨a, h⟩ | ⟨why, h⟩
      · rw [h] at failed
        cases failed
      · rw [h] at failed
        exact absurd (Except.error.inj failed).symm (other why)
    · exact later
  · exact .inr

theorem ordinary_parseMethod (part : Text) : Ordinary (parseMethod part) := by
  unfold parseMethod
  split
  next => exact .inr ⟨_, rfl⟩
  next =>
    split
    next => exact .inr ⟨_, rfl⟩
    next => exact .inl ⟨_, rfl⟩

theorem ordinary_parseUrl (part : Text) : Ordinary (parseUrl part) := by
  unfold parseUrl
  split
  next => exact .inr ⟨_, rfl⟩
  next =>
    split
    next => exact .inr ⟨_, rfl⟩
    next => exact .inl ⟨_, rfl⟩

theorem isOpening_iff {first second : Text} {m : Method} {u : Text} :
    IsOpening first second m u ↔ parseMethod first = .ok m ∧ parseUrl second = .ok u := by
  rw [parseMethod_eq_ok, parseUrl_eq_ok]
  constructor
  · rintro ⟨method, ⟨q, lead, url⟩, present⟩
    exact ⟨method, q, lead, url, present⟩
  · rintro ⟨method, q, lead, url, present⟩
    exact ⟨method, ⟨q, lead, url⟩, present⟩

theorem longEnough_unreadable {t : Text} (unreadable : t.isEncodable = false) :
    Check.longEnough 1 t = .error .notUnicode := by
  rw [Check.longEnough, if_neg (by decide), if_pos (by rw [unreadable]; rfl)]

theorem isEncodable_query {values : Values} {sections : List Section}
    (same : ∀ k, values.value? k = last? k sections) :
    (∀ params, last? .query sections = some (.obj params) → Query.isEncodable params = true) ↔
      Query.isEncodable (values.query.getD []) = true := by
  rw [← same .query, Values.value?]
  cases values.query <;> simp [Query.isEncodable]

theorem describe_cases {m : Method} {u : Text} {values : Values}
    (tidy : Json.Obeys Json.tidy (.obj (values.query.getD []))) (present : u ≠ []) :
    Ordinary (describe m u values) ∧ (Query.isEncodable (values.query.getD []) = true →
        u.isEncodable = true) ∨
      describe m u values = .error (.invalid unreadableUrl) ∧
        Query.isEncodable (values.query.getD []) = true ∧ u.isEncodable = false := by
  have encoded := Query.encoded_extend u tidy
  generalize same : Query.isEncodable (values.query.getD []) = encodable at encoded
  simp only [describe]
  cases found : Query.extend u (values.query.getD []) with
  | error fault =>
    rw [found] at encoded
    cases encoded
    exact .inl ⟨.inr ⟨_, rfl⟩, fun readable => absurd readable Bool.false_ne_true⟩
  | ok fullUrl =>
    obtain ⟨rfl, full, -⟩ := (found ▸ encoded).of_ok
    by_cases readable : u.isEncodable
    · refine .inl ⟨.inl ?_, fun _ => readable⟩
      have described := describe_eq_ok (m := m) (u := u) tidy |>.mpr
        ⟨⟨present, readable⟩, fullUrl, found, rfl⟩
      simp only [describe, found] at described
      exact ⟨_, described⟩
    · have unreadable := Bool.eq_false_iff.mpr readable
      refine .inr ⟨?_, rfl, unreadable⟩
      rw [unreadable] at full
      simp only [Descriptor.issues, List.filterMap_cons, longEnough_unreadable unreadable,
        longEnough_unreadable full]
      rfl

variable [Runtime]

theorem parseSection_eq_tooDeep (values : Values) {part : Text} :
    parseSection values part = .error .nestedTooDeep ↔ NestsTooDeep part := by
  constructor
  · intro h
    unfold parseSection at h
    split at h
    next => cases h
    next name written found =>
      split at h
      next => cases h
      next k known =>
        rw [Keyword.ofText?_eq_some.mp known] at found
        split at h
        next deep => exact ⟨k, written, (Text.cut?_eq_some.mp found).1, deep⟩
        next => cases h
        next => split at h <;> cases h
  · rintro ⟨k, written, rfl, deep⟩
    rw [parseSection_append, deep]
    rfl

theorem parseSection_cases (values : Values) (part : Text) :
    Ordinary (parseSection values part) ∨ NestsTooDeep part := by
  rw [← parseSection_eq_tooDeep values]
  unfold parseSection
  split
  next => exact .inl (.inr ⟨_, rfl⟩)
  next =>
    split
    next => exact .inl (.inr ⟨_, rfl⟩)
    next =>
      split
      next => exact .inr rfl
      next => exact .inl (.inr ⟨_, rfl⟩)
      next =>
        split
        next => exact .inl (.inr ⟨_, rfl⟩)
        next => exact .inl (.inl ⟨_, rfl⟩)

def Deep (parts : List Text) : Prop :=
  ∃ before part after sections, parts = before ++ part :: after ∧
    List.Forall₂ IsSection before sections ∧ NestsTooDeep part

theorem parseSections_cases (values : Values) (parts : List Text) :
    Ordinary (parseSections values parts) ∨
      parseSections values parts = .error .nestedTooDeep := by
  induction parts generalizing values with
  | nil => exact .inl (.inl ⟨values, rfl⟩)
  | cons part parts ih =>
    rw [parseSections]
    rcases parseSection_cases values part with (⟨after, first⟩ | ⟨why, first⟩) | deep
    · rw [first]
      exact ih after
    · rw [first]
      exact .inl (.inr ⟨why, rfl⟩)
    · rw [(parseSection_eq_tooDeep values).mpr deep]
      exact .inr rfl

theorem parseSections_eq_tooDeep {values : Values} {parts : List Text} :
    parseSections values parts = .error .nestedTooDeep ↔ Deep parts := by
  induction parts generalizing values with
  | nil =>
    constructor
    · intro h
      cases h
    · rintro ⟨before, part, after, sections, same, -⟩
      simp at same
  | cons part parts ih =>
    rw [parseSections]
    constructor
    · intro h
      cases first : parseSection values part with
      | error failure =>
        rw [first] at h
        cases h
        exact ⟨[], part, parts, [], rfl, .nil, (parseSection_eq_tooDeep values).mp first⟩
      | ok after =>
        rw [first] at h
        obtain ⟨s, holds, -⟩ := isSection_of_parseSection first
        obtain ⟨before, deep, rest, sections, rfl, each, nests⟩ := ih.mp h
        exact ⟨part :: before, deep, rest, s :: sections, rfl, .cons holds each, nests⟩
    · rintro ⟨before, deep, rest, sections, same, each, nests⟩
      cases each with
      | nil =>
        cases same
        rw [(parseSection_eq_tooDeep values).mpr nests]
      | cons holds each =>
        cases same
        obtain ⟨after, first, -⟩ := exists_parseSection values holds
        rw [first]
        exact ih.mpr ⟨_, deep, rest, _, rfl, each, nests⟩

def Unreadable (u : Text) (parts : List Text) : Prop :=
  ∃ sections, List.Forall₂ IsSection parts sections ∧
    (∀ params, last? .query sections = some (.obj params) → Query.isEncodable params = true) ∧
    u.isEncodable = false

theorem finish_cases (m : Method) {u : Text} (present : u ≠ []) (parts : List Text) :
    let result := parseSections {} parts >>= fun values => describe m u values
    Ordinary result ∨ (result = .error .nestedTooDeep ∧ Deep parts) ∨
      (result = .error (.invalid unreadableUrl) ∧ Unreadable u parts) := by
  rcases parseSections_cases {} parts with (⟨values, read⟩ | ⟨why, read⟩) | deep
  · obtain ⟨sections, each, same⟩ := parseSections_empty.mp read
    rw [read, ok_bind]
    rcases describe_cases (m := m) (tidy_query each (getD_query same)) present with
      ⟨ordinary, -⟩ | ⟨failed, readable, unreadable⟩
    · exact .inl ordinary
    · exact .inr (.inr
        ⟨failed, sections, each, (isEncodable_query same).mpr readable, unreadable⟩)
  · rw [read]
    exact .inl (.inr ⟨why, rfl⟩)
  · exact .inr (.inl ⟨by rw [deep]; rfl, parseSections_eq_tooDeep.mp deep⟩)

theorem finish_unreadable (m : Method) {u : Text} (present : u ≠ []) {parts : List Text}
    (h : Unreadable u parts) :
    (parseSections {} parts >>= fun values => describe m u values) =
      .error (.invalid unreadableUrl) := by
  obtain ⟨sections, each, encodable, unreadable⟩ := h
  obtain ⟨values, same⟩ := exists_values each
  rw [parseSections_empty.mpr ⟨sections, each, same⟩, ok_bind]
  rcases describe_cases (m := m) (tidy_query each (getD_query same)) present with
    ⟨-, only⟩ | ⟨failed, -⟩
  · rw [only ((isEncodable_query same).mp encodable)] at unreadable
    cases unreadable
  · exact failed

theorem parseText_cases (t : Text) :
    (∃ why, parseText t = .error (.rejected why)) ∨
      ∃ first second rest, IsSplit t (first :: second :: rest) ∧
        parseText t = (parseMethod first >>= fun m => parseUrl second >>= fun u =>
          parseSections {} rest >>= fun values => describe m u values) := by
  match parts : t.segments with
  | [] => exact absurd parts t.segments_ne_nil
  | [only] =>
    rw [parseText, parts]
    split
    next => exact .inl ⟨_, rfl⟩
    next => exact .inl ⟨_, rfl⟩
  | first :: second :: rest =>
    exact .inr ⟨first, second, rest, parts ▸ Text.isSplit_segments t, parseText_cons parts⟩

theorem parse_eq_error {v : Json} (fault : Failure) (other : ∀ why, fault ≠ .rejected why) :
    parse v = .error fault ↔ ∃ t first second rest m u, v = .str t ∧
      IsSplit t (first :: second :: rest) ∧ IsOpening first second m u ∧
      (parseSections {} rest >>= fun values => describe m u values) = .error fault := by
  have stages (first second : Text) (rest : List Text) :
      (parseMethod first >>= fun m => parseUrl second >>= fun u =>
        parseSections {} rest >>= fun values => describe m u values) = .error fault ↔
      ∃ m u, IsOpening first second m u ∧
        (parseSections {} rest >>= fun values => describe m u values) = .error fault := by
    simp only [(ordinary_parseMethod first).bind other, (ordinary_parseUrl second).bind other,
      isOpening_iff, and_assoc, exists_and_left]
  constructor
  · intro h
    cases v with
    | str t =>
      change parseText t = .error fault at h
      rcases parseText_cases t with ⟨why, rejected⟩ | ⟨first, second, rest, split, same⟩
      · rw [rejected] at h
        exact absurd (Except.error.inj h).symm (other why)
      · obtain ⟨m, u, opening, failed⟩ := (stages first second rest).mp (same ▸ h)
        exact ⟨t, first, second, rest, m, u, rfl, split, opening, failed⟩
    | _ => exact absurd (Except.error.inj h).symm (other .notText)
  · rintro ⟨t, first, second, rest, m, u, rfl, split, opening, failed⟩
    change parseText t = .error fault
    rw [parseText_cons (split.segments_eq (by simp))]
    exact (stages first second rest).mpr ⟨m, u, opening, failed⟩

theorem parse_cases (v : Json) :
    (∃ d, parse v = .ok d) ∨ (∃ why, parse v = .error (.rejected why)) ∨
      parse v = .error .nestedTooDeep ∨ parse v = .error (.invalid unreadableUrl) := by
  cases parsed : parse v with
  | ok d => exact .inl ⟨d, rfl⟩
  | error fault =>
    by_cases rejected : ∃ why, fault = .rejected why
    · obtain ⟨why, rfl⟩ := rejected
      exact .inr (.inl ⟨why, rfl⟩)
    · obtain ⟨t, first, second, rest, m, u, -, -, opening, failed⟩ :=
        (parse_eq_error fault (not_exists.mp rejected)).mp parsed
      rcases finish_cases m opening.present rest with
        (⟨d, h⟩ | ⟨why, h⟩) | ⟨h, -⟩ | ⟨h, -⟩
      · cases failed.symm.trans h
      · cases failed.symm.trans h
        exact absurd ⟨why, rfl⟩ rejected
      · cases failed.symm.trans h
        exact .inr (.inr (.inl rfl))
      · cases failed.symm.trans h
        exact .inr (.inr (.inr rfl))

/-- What can become of a value that is to be parsed: a descriptor, a rejection or one of two
failures, each with the lines that end in it. No section fails behind one that is broken, and the
url is looked at last. -/
theorem parse_fails_iff (v : Json) :
    ((∃ d, parse v = .ok d) ∨ (∃ why, parse v = .error (.rejected why)) ∨
      parse v = .error .nestedTooDeep ∨ parse v = .error (.invalid unreadableUrl)) ∧
    (parse v = .error .nestedTooDeep ↔
      ∃ t first second before part after m u sections, v = .str t ∧
        IsSplit t (first :: second :: (before ++ part :: after)) ∧
        IsOpening first second m u ∧ List.Forall₂ IsSection before sections ∧
        NestsTooDeep part) ∧
    (parse v = .error (.invalid unreadableUrl) ↔
      ∃ t first second rest m u sections, v = .str t ∧
        IsSplit t (first :: second :: rest) ∧ IsOpening first second m u ∧
        List.Forall₂ IsSection rest sections ∧
        (∀ params, last? .query sections = some (.obj params) →
          Query.isEncodable params = true) ∧ u.isEncodable = false) := by
  refine ⟨parse_cases v, ?_, ?_⟩
  · rw [parse_eq_error .nestedTooDeep nofun]
    constructor
    · rintro ⟨t, first, second, rest, m, u, same, split, opening, failed⟩
      rcases finish_cases m opening.present rest with
        (⟨d, h⟩ | ⟨why, h⟩) | ⟨-, before, part, after, sections, rfl, each, deep⟩ | ⟨h, -⟩
      · cases failed.symm.trans h
      · cases failed.symm.trans h
      · exact ⟨t, first, second, before, part, after, m, u, sections, same, split, opening,
          each, deep⟩
      · cases failed.symm.trans h
    · rintro ⟨t, first, second, before, part, after, m, u, sections, same, split, opening, each,
        deep⟩
      refine ⟨t, first, second, _, m, u, same, split, opening, ?_⟩
      rw [parseSections_eq_tooDeep.mpr ⟨before, part, after, sections, rfl, each, deep⟩]
      rfl
  · rw [parse_eq_error (.invalid unreadableUrl) nofun]
    constructor
    · rintro ⟨t, first, second, rest, m, u, same, split, opening, failed⟩
      rcases finish_cases m opening.present rest with
        (⟨d, h⟩ | ⟨why, h⟩) | ⟨h, -⟩ | ⟨-, sections, each, encodable, unreadable⟩
      · cases failed.symm.trans h
      · cases failed.symm.trans h
      · cases failed.symm.trans h
      · exact ⟨t, first, second, rest, m, u, sections, same, split, opening, each, encodable,
          unreadable⟩
    · rintro ⟨t, first, second, rest, m, u, sections, same, split, opening, unreadable⟩
      exact ⟨t, first, second, rest, m, u, same, split, opening,
        finish_unreadable m opening.present ⟨sections, unreadable⟩⟩

end RequestLine.Line
