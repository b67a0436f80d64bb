import Mathlib.Data.List.Forall2
import RequestLine.Line
import RequestLine.Proofs.Query.Encodable
import RequestLine.Proofs.Text.Cut

set_option autoImplicit false

namespace RequestLine

theorem Method.ofText?_eq_some {t : Text} {m : Method} :
    Method.ofText? t = some m ↔ t = Text.ofString m.name := by
  have different : Text.ofString Method.get.name ≠ Text.ofString Method.post.name := by decide
  constructor
  · intro h
    have found := List.find?_some h
    exact (beq_iff_eq.mp found).symm
  · rintro rfl
    cases m <;> decide

theorem Method.ofText?_eq_none {t : Text} :
    Method.ofText? t = none ↔ ∀ m : Method, t ≠ Text.ofString m.name := by
  rw [Option.eq_none_iff_forall_ne_some]
  exact forall_congr' fun m => not_congr Method.ofText?_eq_some

theorem Keyword.ofText?_eq_some {t : Text} {k : Keyword} :
    Keyword.ofText? t = some k ↔ t = Text.ofString k.name := by
  constructor
  · intro h
    have found := List.find?_some h
    exact (beq_iff_eq.mp found).symm
  · rintro rfl
    cases k <;> decide

theorem Keyword.ofText?_eq_none {t : Text} :
    Keyword.ofText? t = none ↔ ∀ k : Keyword, t ≠ Text.ofString k.name := by
  rw [Option.eq_none_iff_forall_ne_some]
  exact forall_congr' fun k => not_congr Keyword.ofText?_eq_some

theorem Keyword.blank_notMem_name (k : Keyword) :
    Symbol.char ' ' ∉ Text.ofString k.name := by
  cases k <;> decide

namespace Line

theorem remainder?_eq_some {lead : String} {part t : Text} :
    remainder? lead part = some t ↔ ∃ r, part = Text.ofString lead ++ r ∧ r.strip = t := by
  rw [remainder?, Option.map_eq_some_iff]
  simp only [List.isPrefixOf?_eq_some_iff_append_eq]
  exact exists_congr fun r => and_congr_left' eq_comm

theorem remainder?_eq_none {lead : String} {part : Text} :
    remainder? lead part = none ↔ ¬ Text.ofString lead <+: part := by
  rw [remainder?, Option.map_eq_none_iff, ← Option.not_isSome_iff_eq_none,
    List.isSome_isPrefixOf?_eq_isPrefixOf, List.isPrefixOf_iff_prefix]

theorem remainder?_append (lead : String) (r : Text) :
    remainder? lead (Text.ofString lead ++ r) = some r.strip :=
  remainder?_eq_some.mpr ⟨r, rfl, rfl⟩

theorem parseMethod_eq_ok {part : Text} {m : Method} :
    parseMethod part = .ok m ↔
      ∃ r, part = Text.ofString methodLead ++ r ∧ r.strip = Text.ofString m.name := by
  rw [← remainder?_eq_some, parseMethod]
  cases remainder? methodLead part with
  | none => simp
  | some t =>
    rw [Option.some.injEq, ← Method.ofText?_eq_some]
    cases h : Method.ofText? t <;> simp [h]

theorem parseUrl_eq_ok {part u : Text} :
    parseUrl part = .ok u ↔
      ∃ r, part = Text.ofString urlLead ++ r ∧ r.strip = u ∧ u ≠ [] := by
  have present : parseUrl part = .ok u ↔ remainder? urlLead part = some u ∧ u ≠ [] := by
    unfold parseUrl
    cases remainder? urlLead part with
    | none => simp
    | some t =>
      cases t with
      | nil => simp +contextual [eq_comm]
      | cons s t => simp +contextual [eq_comm]
  simp only [present, remainder?_eq_some, ← and_assoc, exists_and_right]

structure Section where
  keyword : Keyword
  value : Json

def Section.Fits (s : Section) : Prop := s.keyword = .body ∨ ∃ members, s.value = .obj members

/-- The part is a keyword, a blank and the value as strict JSON between blanks. -/
def IsSection [Runtime] (part : Text) (s : Section) : Prop :=
  ∃ written : Text, part = Text.ofString s.keyword.name ++ (.char ' ' :: written) ∧
    Json.read .strict written.strip = .ok s.value ∧ s.Fits

def last? (k : Keyword) (sections : List Section) : Option Json :=
  (sections.reverse.find? (·.keyword = k)).map (·.value)

theorem last?_cons (k : Keyword) (s : Section) (sections : List Section) :
    last? k (s :: sections) =
      (last? k sections).or (if s.keyword = k then some s.value else none) := by
  by_cases same : s.keyword = k <;>
    cases h : sections.reverse.find? (·.keyword = k) <;> simp [last?, same, h]

theorem last?_append (k : Keyword) (sections more : List Section) :
    last? k (sections ++ more) = (last? k more).or (last? k sections) := by
  rw [last?, List.reverse_append, List.find?_append, Option.map_or]
  rfl

namespace Values

def value? (values : Values) : Keyword → Option Json
  | .headers => values.headers.map .obj
  | .query => values.query.map .obj
  | .body => values.body

@[ext] theorem ext {a b : Values} (same : ∀ k, a.value? k = b.value? k) : a = b := by
  have injective : Function.Injective (Option.map Json.obj) :=
    Option.map_injective fun _ _ h => Json.obj.inj h
  have headers : a.headers = b.headers := injective (same .headers)
  have query : a.query = b.query := injective (same .query)
  have body : a.body = b.body := same .body
  cases a
  cases b
  simp_all

theorem value?_set {values after : Values} {k : Keyword} {v : Json}
    (h : values.set k v = some after) (l : Keyword) :
    after.value? l = if k = l then some v else values.value? l := by
  cases k <;> cases v <;> simp [set, Json.members?] at h <;> subst h <;> cases l <;> rfl

theorem set_isSome {values : Values} {k : Keyword} {v : Json} :
    (values.set k v).isSome ↔ (Section.mk k v).Fits := by
  cases k <;> cases v <;> simp [set, Json.members?, Section.Fits]

end Values

def Sets (values after : Values) (s : Section) : Prop :=
  ∀ k, after.value? k = if s.keyword = k then some s.value else values.value? k

theorem cut?_keyword (k : Keyword) (written : Text) :
    Text.cut? (.char ' ') (Text.ofString k.name ++ .char ' ' :: written) =
      some (Text.ofString k.name, written) :=
  Text.cut?_eq_some.mpr ⟨rfl, k.blank_notMem_name⟩

def sectionFault (k : Keyword) : Json.Fault → Failure
  | .tooDeep => .nestedTooDeep
  | .malformed => .rejected (.invalidJson k)

variable [Runtime]

theorem parseSection_append (values : Values) (k : Keyword) (written : Text) :
    parseSection values (Text.ofString k.name ++ .char ' ' :: written) =
      ((Json.read .strict written.strip).mapError (sectionFault k) >>= fun v =>
        (values.set k v).elim (.error (.rejected (.invalidJson k))) .ok) := by
  have known := Keyword.ofText?_eq_some.mpr (rfl : Text.ofString k.name = _)
  simp only [parseSection, cut?_keyword, known]
  rcases Json.read .strict written.strip with fault | v
  · cases fault <;> rfl
  · cases h : values.set k v <;> simp [Except.mapError, h]

theorem isSection_of_parseSection {values after : Values} {part : Text}
    (h : parseSection values part = .ok after) : ∃ s, IsSection part s ∧ Sets values after s := by
  unfold parseSection at h
  split at h
  next => contradiction
  next name written found =>
    split at h
    next => contradiction
    next k known =>
      split at h
      next => contradiction
      next => contradiction
      next v decoded =>
        split at h
        next => contradiction
        next values' replaced =>
          cases h
          have fits := Values.set_isSome.mp (Option.isSome_of_eq_some replaced)
          rw [Text.cut?_eq_some, Keyword.ofText?_eq_some.mp known] at found
          exact ⟨⟨k, v⟩, ⟨written, found.1, decoded, fits⟩, Values.value?_set replaced⟩

theorem exists_parseSection (values : Values) {part : Text} {s : Section}
    (h : IsSection part s) :
    ∃ after, parseSection values part = .ok after ∧ Sets values after s := by
  obtain ⟨written, rfl, decoded, fits⟩ := h
  obtain ⟨after, replaced⟩ := Option.isSome_iff_exists.mp (Values.set_isSome.mpr fits)
  refine ⟨after, ?_, Values.value?_set replaced⟩
  rw [parseSection_append, decoded]
  exact congrArg (Option.elim · _ _) replaced

theorem parseSections_eq_ok {values after : Values} {parts : List Text} :
    parseSections values parts = .ok after ↔ ∃ sections, List.Forall₂ IsSection parts sections ∧
      ∀ k, after.value? k = (last? k sections).or (values.value? k) := by
  induction parts generalizing values with
  | nil =>
    constructor
    · intro h
      cases h
      exact ⟨[], .nil, fun k => rfl⟩
    · rintro ⟨sections, holds, same⟩
      cases holds
      exact congrArg Except.ok (Values.ext fun k => (same k).symm)
  | cons part parts ih =>
    -- What a section sets is what the later ones leave unset.
    have behind {values' : Values} {s : Section} (sets : Sets values values' s)
        (sections : List Section) (k : Keyword) :
        (last? k sections).or (values'.value? k) =
          (last? k (s :: sections)).or (values.value? k) := by
      rw [sets k, last?_cons, Option.or_assoc]
      split <;> simp
    constructor
    · intro h
      rw [parseSections] at h
      split at h
      next => contradiction
      next values' first =>
        obtain ⟨s, holds, sets⟩ := isSection_of_parseSection first
        obtain ⟨sections, more, same⟩ := ih.mp h
        exact ⟨s :: sections, .cons holds more, fun k => (same k).trans (behind sets sections k)⟩
    · rintro ⟨sections, holds, same⟩
      cases holds with
      | @cons _ s _ sections holds more =>
        obtain ⟨values', first, sets⟩ := exists_parseSection values holds
        rw [parseSections, first]
        exact ih.mpr ⟨sections, more, fun k => (same k).trans (behind sets sections k).symm⟩

theorem parseSections_empty {values : Values} {parts : List Text} :
    parseSections {} parts = .ok values ↔ ∃ sections, List.Forall₂ IsSection parts sections ∧
      ∀ k, values.value? k = last? k sections := by
  rw [parseSections_eq_ok]
  refine exists_congr fun sections => and_congr_right' (forall_congr' fun k => ?_)
  have unset : ({} : Values).value? k = none := by cases k <;> rfl
  rw [unset, Option.or_none]

end Line

end RequestLine
