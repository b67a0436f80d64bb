import Mathlib.Data.Nat.Find
import RequestLine.Proofs.Line.Failures

set_option autoImplicit false

namespace RequestLine.Line

open Text (IsSplit)

theorem exists_cons_cons {parts : List Text} (two : 2 ≤ parts.length) :
    ∃ first second rest, parts = first :: second :: rest := by
  match parts, two with
  | first :: second :: rest, _ => exact ⟨first, second, rest, rfl⟩

theorem describe_eq_rejected {m : Method} {u : Text} {values : Values}
    (tidy : Json.Obeys Json.tidy (.obj (values.query.getD []))) {why : Rejection} :
    describe m u values = .error (.rejected why) ↔
      why = .invalidJson .query ∧ Query.isEncodable (values.query.getD []) = false := by
  have encoded := Query.encoded_extend u tidy
  generalize same : Query.isEncodable (values.query.getD []) = encodable at encoded
  simp only [describe]
  cases found : Query.extend u (values.query.getD []) with
  | error fault =>
    rw [found] at encoded
    cases encoded
    simp [eq_comm]
  | ok fullUrl =>
    rw [found] at encoded
    rw [encoded.of_ok.1]
    dsimp only
    split <;> simp

section

variable [Runtime]

/-- The first of its rules that the part at this place breaks. -/
inductive Breaks : Nat → Text → Rejection → Prop where
  | methodKeyword {part : Text} (lead : ¬ Text.ofString methodLead <+: part) :
      Breaks 0 part .missingMethodKeyword
  | method {r : Text} (other : ∀ m : Method, r.strip ≠ Text.ofString m.name) :
      Breaks 0 (Text.ofString methodLead ++ r) .invalidMethod
  | urlKeyword {part : Text} (lead : ¬ Text.ofString urlLead <+: part) :
      Breaks 1 part .missingUrlKeyword
  | url {r : Text} (empty : r.strip = []) : Breaks 1 (Text.ofString urlLead ++ r) .emptyUrl
  | blank {i : Nat} {part : Text} (absent : Symbol.char ' ' ∉ part) :
      Breaks (i + 2) part .malformedSection
  | keyword {i : Nat} {name written : Text} (first : Symbol.char ' ' ∉ name)
      (unknown : ∀ k : Keyword, name ≠ Text.ofString k.name) :
      Breaks (i + 2) (name ++ .char ' ' :: written) (.unknownKeyword name)
  | json {i : Nat} {k : Keyword} {written : Text}
      (malformed : Json.read .strict written.strip = .error .malformed) :
      Breaks (i + 2) (Text.ofString k.name ++ .char ' ' :: written) (.invalidJson k)
  | object {i : Nat} {k : Keyword} {written : Text} {v : Json}
      (decoded : Json.read .strict written.strip = .ok v) (misfit : ¬ (Section.mk k v).Fits) :
      Breaks (i + 2) (Text.ofString k.name ++ .char ' ' :: written) (.invalidJson k)

def Keeps (i : Nat) (part : Text) : Prop :=
  (∀ why, ¬ Breaks i part why) ∧ ¬ (2 ≤ i ∧ NestsTooDeep part)

structure FirstBreak (parts : List Text) (k : Nat) (why : Rejection) : Prop where
  breaks : ∃ part, parts[k]? = some part ∧ Breaks k part why
  before : ∀ i < k, ∀ part, parts[i]? = some part → Keeps i part

theorem FirstBreak.congr {parts others : List Text} {k : Nat} {why : Rejection}
    (first : FirstBreak parts k why) (same : others.take (k + 1) = parts.take (k + 1)) :
    FirstBreak others k why := by
  have each (i : Nat) (within : i < k + 1) : others[i]? = parts[i]? := by
    rw [← List.getElem?_take_of_lt within, same, List.getElem?_take_of_lt within]
  obtain ⟨part, here, breaks⟩ := first.breaks
  refine ⟨⟨part, (each k (Nat.lt_succ_self k)).trans here, breaks⟩, fun i less part found => ?_⟩
  exact first.before i less part ((each i (Nat.lt_succ_of_lt less)).symm.trans found)

theorem parseMethod_eq_rejected {part : Text} {why : Rejection} :
    parseMethod part = .error (.rejected why) ↔ Breaks 0 part why := by
  constructor
  · intro h
    unfold parseMethod at h
    split at h
    next none =>
      cases h
      exact .methodKeyword (remainder?_eq_none.mp none)
    next t lead =>
      obtain ⟨r, rfl, rfl⟩ := remainder?_eq_some.mp lead
      split at h
      next none =>
        cases h
        exact .method (Method.ofText?_eq_none.mp none)
      next => cases h
  · intro breaks
    cases breaks with
    | methodKeyword lead => rw [parseMethod, remainder?_eq_none.mpr lead]
    | @method r other =>
      rw [parseMethod, remainder?_append]
      simp only [Method.ofText?_eq_none.mpr other]

theorem parseUrl_eq_rejected {part : Text} {why : Rejection} :
    parseUrl part = .error (.rejected why) ↔ Breaks 1 part why := by
  constructor
  · intro h
    unfold parseUrl at h
    split at h
    next none =>
      cases h
      exact .urlKeyword (remainder?_eq_none.mp none)
    next t lead =>
      obtain ⟨r, rfl, rfl⟩ := remainder?_eq_some.mp lead
      split at h
      next empty =>
        cases h
        exact .url (List.isEmpty_iff.mp empty)
      next => cases h
  · intro breaks
    cases breaks with
    | urlKeyword lead => rw [parseUrl, remainder?_eq_none.mpr lead]
    | url empty =>
      rw [parseUrl, remainder?_append]
      simp only [empty, List.isEmpty_nil, if_true]

theorem parseSection_eq_rejected (i : Nat) (values : Values) {part : Text} {why : Rejection} :
    parseSection values part = .error (.rejected why) ↔ Breaks (i + 2) part why := by
  constructor
  · intro h
    unfold parseSection at h
    split at h
    next none =>
      cases h
      exact .blank (Text.cut?_eq_none.mp none)
    next name written found =>
      obtain ⟨rfl, first⟩ := Text.cut?_eq_some.mp found
      split at h
      next none =>
        cases h
        exact .keyword first (Keyword.ofText?_eq_none.mp none)
      next k known =>
        rw [Keyword.ofText?_eq_some.mp known]
        split at h
        next => cases h
        next malformed =>
          cases h
          exact .json malformed
        next v decoded =>
          split at h
          next none =>
            cases h
            refine .object decoded fun fits => ?_
            have some : (values.set k v).isSome := Values.set_isSome.mpr fits
            rw [none] at some
            cases some
          next => cases h
  · intro breaks
    cases breaks with
    | blank absent => rw [parseSection, Text.cut?_eq_none.mpr absent]
    | @keyword _ name written first unknown =>
      have cut := Text.cut?_eq_some.mpr ⟨(rfl : name ++ .char ' ' :: written = _), first⟩
      simp only [parseSection, cut, Keyword.ofText?_eq_none.mpr unknown]
    | json malformed =>
      rw [parseSection_append, malformed]
      rfl
    | @object _ k written v decoded misfit =>
      have none : values.set k v = none :=
        Option.not_isSome_iff_eq_none.mp (mt Values.set_isSome.mp misfit)
      rw [parseSection_append, decoded]
      exact congrArg (Option.elim · _ _) none

theorem keeps_method {part : Text} : Keeps 0 part ↔ ∃ m, parseMethod part = .ok m := by
  constructor
  · intro keeps
    rcases ordinary_parseMethod part with found | ⟨why, failed⟩
    · exact found
    · exact absurd (parseMethod_eq_rejected.mp failed) (keeps.1 why)
  · rintro ⟨m, found⟩
    refine ⟨fun why breaks => ?_, fun deep => absurd deep.1 (by decide)⟩
    cases found.symm.trans (parseMethod_eq_rejected.mpr breaks)

theorem keeps_url {part : Text} : Keeps 1 part ↔ ∃ u, parseUrl part = .ok u := by
  constructor
  · intro keeps
    rcases ordinary_parseUrl part with found | ⟨why, failed⟩
    · exact found
    · exact absurd (parseUrl_eq_rejected.mp failed) (keeps.1 why)
  · rintro ⟨u, found⟩
    refine ⟨fun why breaks => ?_, fun deep => absurd deep.1 (by decide)⟩
    cases found.symm.trans (parseUrl_eq_rejected.mpr breaks)

theorem keeps_section (i : Nat) (values : Values) {part : Text} :
    Keeps (i + 2) part ↔ ∃ after, parseSection values part = .ok after := by
  constructor
  · intro keeps
    rcases parseSection_cases values part with (found | ⟨why, failed⟩) | deep
    · exact found
    · exact absurd ((parseSection_eq_rejected i values).mp failed) (keeps.1 why)
    · exact absurd ⟨Nat.le_add_left 2 i, deep⟩ keeps.2
  · rintro ⟨after, found⟩
    refine ⟨fun why breaks => ?_, fun deep => ?_⟩
    · cases found.symm.trans ((parseSection_eq_rejected i values).mpr breaks)
    · cases found.symm.trans ((parseSection_eq_tooDeep values).mpr deep.2)

theorem parseSections_stops {values : Values} {parts : List Text} {k : Nat} {part : Text}
    {fault : Failure} (found : parts[k]? = some part)
    (stops : ∀ values, parseSection values part = .error fault)
    (before : ∀ i < k, ∀ part, parts[i]? = some part → Keeps (i + 2) part) :
    parseSections values parts = .error fault := by
  induction parts generalizing values k with
  | nil => simp at found
  | cons first parts ih =>
    rw [parseSections]
    cases k with
    | zero =>
      cases found
      rw [stops]
    | succ k =>
      obtain ⟨after, read⟩ :=
        (keeps_section 0 values).mp (before 0 (Nat.succ_pos k) first rfl)
      rw [read]
      refine ih found fun i less part found => ?_
      have keeps := before (i + 1) (Nat.succ_lt_succ less) part found
      exact (keeps_section i after).mpr ((keeps_section (i + 1) after).mp keeps)

theorem exists_first {parts : List Text}
    (broken : ¬ ∀ i part, parts[i]? = some part → Keeps i part) :
    ∃ k, (∃ part, parts[k]? = some part ∧ ¬ Keeps k part) ∧
      ∀ i < k, ∀ part, parts[i]? = some part → Keeps i part := by
  classical
  push Not at broken
  refine ⟨Nat.find broken, Nat.find_spec broken, fun i less part found => ?_⟩
  by_contra other
  exact Nat.find_min broken less ⟨part, found, other⟩

theorem parse_stops {t : Text} {parts : List Text} (split : IsSplit t parts) {k : Nat}
    {part : Text} {fault : Failure} (found : parts[k + 2]? = some part)
    (stops : ∀ values, parseSection values part = .error fault)
    (before : ∀ i < k + 2, ∀ part, parts[i]? = some part → Keeps i part) :
    parse (.str t) = .error fault := by
  match parts, found with
  | a :: b :: rest, found =>
    obtain ⟨m, method⟩ := keeps_method.mp (before 0 (by omega) a rfl)
    obtain ⟨u, url⟩ := keeps_url.mp (before 1 (by omega) b rfl)
    have failed : parseSections {} rest = .error fault :=
      parseSections_stops found stops fun i less part found =>
        before (i + 2) (Nat.add_lt_add_right less 2) part found
    rw [parse_cons split, method, ok_bind, url, ok_bind, failed, error_bind]

theorem parse_firstBreak {t : Text} {parts : List Text} (split : IsSplit t parts)
    (two : 2 ≤ parts.length) {k : Nat} {why : Rejection} (first : FirstBreak parts k why) :
    parse (.str t) = .error (.rejected why) := by
  obtain ⟨⟨part, found, breaks⟩, before⟩ := first
  match k with
  | 0 =>
    obtain ⟨a, b, rest, rfl⟩ := exists_cons_cons two
    cases found
    rw [parse_cons split, parseMethod_eq_rejected.mpr breaks, error_bind]
  | 1 =>
    obtain ⟨a, b, rest, rfl⟩ := exists_cons_cons two
    cases found
    obtain ⟨m, method⟩ := keeps_method.mp (before 0 (by decide) a rfl)
    rw [parse_cons split, method, ok_bind, parseUrl_eq_rejected.mpr breaks, error_bind]
  | k + 2 =>
    exact parse_stops split found (fun values => (parseSection_eq_rejected k values).mpr breaks)
      before

theorem parseSections_keeps (values : Values) {parts : List Text}
    (keeps : ∀ part ∈ parts, Keeps 2 part) : ∃ after, parseSections values parts = .ok after := by
  induction parts generalizing values with
  | nil => exact ⟨values, rfl⟩
  | cons first parts ih =>
    rw [List.forall_mem_cons] at keeps
    obtain ⟨after, read⟩ := (keeps_section 0 values).mp keeps.1
    rw [parseSections, read]
    exact ih after keeps.2

theorem parse_keeps {t : Text} {parts : List Text} (split : IsSplit t parts)
    (two : 2 ≤ parts.length) (keeps : ∀ i part, parts[i]? = some part → Keeps i part) :
    (∃ sections, List.Forall₂ IsSection (parts.drop 2) sections) ∧
      ∀ sections, List.Forall₂ IsSection (parts.drop 2) sections →
        ∀ why, parse (.str t) = .error (.rejected why) ↔ why = .invalidJson .query ∧
          ∃ params, last? .query sections = some (.obj params) ∧
            Query.isEncodable params = false := by
  obtain ⟨a, b, rest, rfl⟩ := exists_cons_cons two
  rw [parse_cons split]
  obtain ⟨m, method⟩ := keeps_method.mp (keeps 0 a rfl)
  obtain ⟨u, url⟩ := keeps_url.mp (keeps 1 b rfl)
  have each : ∀ part ∈ rest, Keeps 2 part := by
    intro part member
    obtain ⟨i, found⟩ := List.getElem?_of_mem member
    exact (keeps_section 0 {}).mpr ((keeps_section i {}).mp (keeps (i + 2) part found))
  constructor
  · obtain ⟨values, read⟩ := parseSections_keeps {} each
    obtain ⟨sections, holds, -⟩ := parseSections_empty.mp read
    exact ⟨sections, holds⟩
  · intro sections holds why
    obtain ⟨values, same⟩ := exists_values holds
    have read : parseSections {} rest = .ok values :=
      parseSections_empty.mpr ⟨sections, holds, same⟩
    have last := not_congr (isEncodable_query same)
    push Not at last
    simp only [ne_eq, Bool.not_eq_true] at last
    rw [method, ok_bind, url, ok_bind, read, ok_bind,
      describe_eq_rejected (tidy_query holds (getD_query same)), last]

theorem parse_eq_rejected {t : Text} {parts : List Text} (split : IsSplit t parts)
    (two : 2 ≤ parts.length) {why : Rejection} :
    parse (.str t) = .error (.rejected why) ↔ (∃ k, FirstBreak parts k why) ∨
      (∀ i part, parts[i]? = some part → Keeps i part) ∧ why = .invalidJson .query ∧
        ∃ sections params, List.Forall₂ IsSection (parts.drop 2) sections ∧
          last? .query sections = some (.obj params) ∧ Query.isEncodable params = false := by
  constructor
  · intro rejected
    by_cases keeps : ∀ i part, parts[i]? = some part → Keeps i part
    · obtain ⟨⟨sections, each⟩, last⟩ := parse_keeps split two keeps
      obtain ⟨same, params, found, lone⟩ := (last sections each why).mp rejected
      exact .inr ⟨keeps, same, sections, params, each, found, lone⟩
    · obtain ⟨k, ⟨part, found, broken⟩, before⟩ := exists_first keeps
      by_cases deep : 2 ≤ k ∧ NestsTooDeep part
      · obtain ⟨i, rfl⟩ := Nat.exists_eq_add_of_le' deep.1
        have failed := parse_stops split found
          (fun values => (parseSection_eq_tooDeep values).mpr deep.2) before
        cases rejected.symm.trans failed
      · obtain ⟨other, breaks⟩ : ∃ other, Breaks k part other := by
          by_contra none
          exact broken ⟨not_exists.mp none, deep⟩
        have first : FirstBreak parts k other := ⟨⟨part, found, breaks⟩, before⟩
        cases rejected.symm.trans (parse_firstBreak split two first)
        exact .inl ⟨k, first⟩
  · rintro (⟨k, first⟩ | ⟨keeps, same, sections, params, each, found, lone⟩)
    · exact parse_firstBreak split two first
    · exact ((parse_keeps split two keeps).2 sections each why).mpr ⟨same, params, found, lone⟩

/-- The first part that breaks a rule decides, whatever comes behind it. If no part does, there is
one thing left to reject a line for: its last query cannot be encoded. -/
theorem first_error_wins {t : Text} {parts : List Text} (split : IsSplit t parts)
    (two : 2 ≤ parts.length) :
    (∀ k why, FirstBreak parts k why → parse (.str t) = .error (.rejected why) ∧
      ∀ t' others, IsSplit t' others → 2 ≤ others.length →
        others.take (k + 1) = parts.take (k + 1) → parse (.str t') = .error (.rejected why)) ∧
    ∀ why, parse (.str t) = .error (.rejected why) ↔ (∃ k, FirstBreak parts k why) ∨
      (∀ i part, parts[i]? = some part → Keeps i part) ∧ why = .invalidJson .query ∧
        ∃ sections params, List.Forall₂ IsSection (parts.drop 2) sections ∧
          last? .query sections = some (.obj params) ∧ Query.isEncodable params = false := by
  refine ⟨fun k why first => ⟨parse_firstBreak split two first, ?_⟩,
    fun why => parse_eq_rejected split two⟩
  intro t' others split' two' same
  exact parse_firstBreak split' two' (first.congr same)

end

theorem unknown_keyword_first :
    (parse (.str (Text.ofString "HTTP GET | URL x | FOO 1 | BODY [")) =
        .error (.rejected (.unknownKeyword (Text.ofString "FOO"))) ∧
      parse (.str (Text.ofString "HTTP GET | URL x | FOO 1 | HTTP 2 |")) =
        .error (.rejected (.unknownKeyword (Text.ofString "FOO")))) ∧
    parse (.str (Text.ofString "HTTP GET | URL x | QUERY \x7b\"a\": \"\\udead\"\x7d")) =
      .error (.rejected (.invalidJson .query)) := by
  have method : Keeps 0 (Text.ofString "HTTP GET") := keeps_method.mpr ⟨.get, rfl⟩
  have url : Keeps 1 (Text.ofString "URL x") := keeps_url.mpr ⟨Text.ofString "x", rfl⟩
  constructor
  · have split : IsSplit (Text.ofString "HTTP GET | URL x | FOO 1 | BODY [")
        [Text.ofString "HTTP GET", Text.ofString "URL x", Text.ofString "FOO 1",
          Text.ofString "BODY ["] := Text.isSplit_segments _
    have split' : IsSplit (Text.ofString "HTTP GET | URL x | FOO 1 | HTTP 2 |")
        [Text.ofString "HTTP GET", Text.ofString "URL x", Text.ofString "FOO 1",
          Text.ofString "HTTP 2 |"] := Text.isSplit_segments _
    have unknown : Breaks 2 (Text.ofString "FOO 1") (.unknownKeyword (Text.ofString "FOO")) :=
      @Breaks.keyword _ 0 (Text.ofString "FOO") (Text.ofString "1") (by decide)
        fun k => by cases k <;> decide
    obtain ⟨wins, -⟩ := first_error_wins split (by decide)
    obtain ⟨same, others⟩ := wins 2 _ {
      breaks := ⟨_, rfl, unknown⟩
      before := fun i less part found => by
        match i, less with
        | 0, _ => exact Option.some.inj found ▸ method
        | 1, _ => exact Option.some.inj found ▸ url }
    exact ⟨same, others _ _ split' (by decide) rfl⟩
  · have split : IsSplit (Text.ofString "HTTP GET | URL x | QUERY \x7b\"a\": \"\\udead\"\x7d")
        [Text.ofString "HTTP GET", Text.ofString "URL x",
          Text.ofString "QUERY \x7b\"a\": \"\\udead\"\x7d"] := Text.isSplit_segments _
    have holds : IsSection (Text.ofString "QUERY \x7b\"a\": \"\\udead\"\x7d")
        ⟨.query, .obj [(Text.ofString "a", .str [.lone 0x6AD])]⟩ :=
      ⟨Text.ofString "\x7b\"a\": \"\\udead\"\x7d", rfl, rfl, .inr ⟨_, rfl⟩⟩
    obtain ⟨after, read, -⟩ := exists_parseSection {} holds
    have keeps (i : Nat) (part : Text) (found : [Text.ofString "HTTP GET", Text.ofString "URL x",
        Text.ofString "QUERY \x7b\"a\": \"\\udead\"\x7d"][i]? = some part) : Keeps i part := by
      match i with
      | 0 => exact Option.some.inj found ▸ method
      | 1 => exact Option.some.inj found ▸ url
      | 2 => exact Option.some.inj found ▸ (keeps_section 0 {}).mpr ⟨after, read⟩
    exact ((first_error_wins split (by decide)).2 _).mpr
      (.inr ⟨keeps, rfl, [_], _, .cons holds .nil, rfl, by decide⟩)

end RequestLine.Line
