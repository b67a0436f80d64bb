import RequestLine.Proofs.Json.Grammar
import RequestLine.Proofs.Json.Reading

set_option autoImplicit false

namespace RequestLine.Json

namespace Grammar

open Reader (Piece)

theorem Content.spells {t : Text} {ps : List Piece} (content : Content t ps) : Spells t ps := by
  induction content with
  | nil => exact .nil
  | plain shown quote backslash _ ih => exact (Spells.plain shown quote backslash).append ih
  | @escape s c t ps letter _ ih =>
    have one : Spells [.char '\\', s] [.whole (.char c)] := by
      unfold Reader.escaped? at letter
      split at letter <;> cases letter <;> intro done rest <;> rfl
    exact one.append ih
  | @unit a b c d n t ps digits _ ih =>
    have one : Spells [.char '\\', .char 'u', a, b, c, d] [.ofUnit n] := by
      intro done rest
      simp [Reader.pieces, digits]
    exact one.append ih

theorem IsString.read {quoted key : Text} (string : IsString quoted key) :
    ∃ t, quoted = .char '"' :: t ∧ ∀ rest, Reader.string (t ++ rest) = .ok (key, rest) := by
  obtain ⟨content⟩ := string
  refine ⟨_, rfl, fun rest => ?_⟩
  have found := content.spells [] (.char '"' :: rest)
  rw [List.append_nil, Reader.pieces, List.reverse_reverse] at found
  rw [List.append_assoc, List.singleton_append, Reader.string, found]
  rfl

end Grammar

namespace Reader

open Grammar

theorem Opens.append {t : Text} (opens : Opens t) (rest : Text) : Opens (t ++ rest) := by
  obtain ⟨c, after, rfl, solid⟩ := opens
  exact ⟨c, after ++ rest, rfl, solid⟩

theorem Opens.length_pos {t : Text} (opens : Opens t) : 0 < t.length := by
  obtain ⟨c, after, rfl, -⟩ := opens
  exact Nat.succ_pos _

theorem Opens.skip {t : Text} (opens : Opens t) : skip t = t := by
  obtain ⟨c, after, rfl, visible, -⟩ := opens
  exact skip_eq_self visible.solid after

theorem skip_append {before : Text} (blank : Blanks before) (t : Text) :
    skip (before ++ t) = skip t :=
  List.dropWhile_append_of_pos blank

theorem ends_append {before rest : Text} (blank : Blanks before) (ends : Ends rest) :
    Ends (before ++ rest) := by
  cases before with
  | nil => exact ends
  | cons s before =>
    have first := blank s List.mem_cons_self
    simp only [isBlank, Bool.or_eq_true, beq_iff_eq] at first
    rcases first with ((rfl | rfl) | rfl) | rfl <;> exact ends_char (by decide) (by decide)

theorem opens_withSign {c : Char} (digit : c.isDigit = true) (negative : Bool) (t : Text) :
    Opens (Double.withSign negative (.char c :: t)) := by
  obtain ⟨visible, inner, -⟩ := visible_numeric (.inl digit)
  cases negative with
  | true => exact ⟨'-', _, rfl, by decide⟩
  | false => exact ⟨c, t, rfl, visible, inner⟩

theorem opens_isNumber {t : Text} {v : Json} (number : IsNumber t v) : Opens t := by
  cases number with
  | @int negative whole each present _ _ =>
    obtain ⟨c, cs, rfl⟩ := List.exists_cons_of_ne_nil present
    exact opens_withSign (areDigits_cons.mp each).1 negative _
  | float written =>
    obtain ⟨c, after, digit, front⟩ := written.exists_digit
    have same := front []
    rw [List.append_nil] at same
    exact same ▸ opens_withSign digit _ _

theorem opens_scalar {dialect : Dialect} {t : Text} {v : Json} (scalar : Scalar dialect t v) :
    Opens t := by
  cases scalar with
  | word known =>
    have known := mem_lenient known
    simp only [words, constants, List.cons_append, List.nil_append, List.mem_cons,
      List.not_mem_nil, or_false] at known
    rcases known with rfl | rfl | rfl | rfl | rfl | rfl <;> exact ⟨_, _, rfl, by decide⟩
  | string string =>
    obtain ⟨t, rfl, -⟩ := string.read
    exact ⟨'"', t, rfl, by decide⟩
  | number number => exact opens_isNumber number

theorem value_isNumber {t : Text} {v : Json} (number : IsNumber t v) (dialect : Dialect)
    (fuel depth : Nat) {rest : Text} (ends : Ends rest) :
    value dialect fuel depth (t ++ rest) = .ok (v, rest) := by
  cases number with
  | @int negative whole each present leading short =>
    have sound : Numeral.Form.Sound ⟨negative, whole, [], none⟩ :=
      ⟨each, present, leading, by simp [AreDigits], nofun⟩
    have text : Numeral.Form.text ⟨negative, whole, [], none⟩ =
        Double.withSign negative (whole.map .char) := by
      simp [Numeral.Form.text, Numeral.Form.unsigned, Numeral.Form.fractionText,
        Numeral.Form.exponentText]
    rw [← text, value_number sound, number_integer sound rfl rfl short ends]
  | float written => exact value_written written dialect fuel depth ends

theorem value_known {dialect : Dialect} {w : String × Json}
    (known : w ∈ words ++ constants dialect) (fuel depth : Nat) (rest : Text) :
    value dialect fuel depth (Text.ofString w.1 ++ rest) = .ok (w.2, rest) := by
  rcases List.mem_append.mp known with word | constant
  · exact value_word word dialect fuel depth rest
  · cases dialect with
    | strict => contradiction
    | lenient =>
      simp only [constants, List.mem_cons, List.not_mem_nil, or_false] at constant
      rcases constant with rfl | rfl | rfl <;> cases depth <;> rfl

theorem value_scalar {dialect : Dialect} {t : Text} {v : Json} (scalar : Scalar dialect t v)
    (fuel depth : Nat) {rest : Text} (ends : Ends rest) :
    value dialect fuel depth (t ++ rest) = .ok (v, rest) := by
  cases scalar with
  | word known => exact value_known known fuel depth rest
  | string string =>
    obtain ⟨t, rfl, read⟩ := string.read
    rw [List.cons_append, value_eq_scalar (by decide) (by decide), Reader.scalar, read]
    rfl
  | number number => exact value_isNumber number dialect fuel depth ends

variable {α : Type}

structure Accepts (fuel : Nat) (read : Text → Read α) (item : Text → α → Prop)
    (deep : Text → Prop) : Prop where
  opens : ∀ {t x}, item t x → Opens t
  opensDeep : ∀ {t}, deep t → Opens t
  ok : ∀ {t x rest}, item t x → t.length ≤ fuel → Ends rest → read (t ++ rest) = .ok (x, rest)
  tooDeep : ∀ {t}, deep t → t.length ≤ fuel → read t = .error .tooDeep

variable {fuel : Nat} {read : Text → Read α} {item : Text → α → Prop} {deep : Text → Prop}
  {close : Char}

theorem items_opens (accepts : Accepts fuel read item deep) {t : Text} {xs : List α}
    (items : Items item t xs) : Opens t := by
  cases items with
  | last only => exact accepts.opens only
  | more first => exact (accepts.opens first).append _

theorem reaches_opens (accepts : Accepts fuel read item deep) {t : Text}
    (reaches : Reaches item deep t) : Opens t := by
  cases reaches with
  | here reached => exact accepts.opensDeep reached
  | later first => exact (accepts.opens first).append _

theorem items_item (accepts : Accepts fuel read item deep) {t before rest : Text} {x : α}
    (first : item t x) (long : t.length ≤ fuel) (blank : Blanks before) {c : Char}
    (solid : isBlank (.char c) = false) (ends : Ends (.char c :: rest)) (n : Nat) (done : List α) :
    items read close (n + 1) done (t ++ (before ++ .char c :: rest)) =
      if c = ',' then items read close n (x :: done) (skip rest)
      else if c = close then .ok ((x :: done).reverse, rest)
      else .error .malformed := by
  rw [items, accepts.ok first long (ends_append blank ends)]
  simp only [skip_append blank, skip_eq_self solid]

theorem items_accepts (accepts : Accepts fuel read item deep) (closes : Closes close) {t : Text}
    {xs : List α} (inner : Items item t xs) (long : t.length ≤ fuel) {n : Nat}
    (enough : t.length ≤ n) (done : List α) {after : Text} (blank : Blanks after) (rest : Text) :
    items read close n done (t ++ (after ++ .char close :: rest)) =
      .ok (done.reverse ++ xs, rest) := by
  -- Every item takes at least one symbol, and the comma behind it another.
  induction inner generalizing n done with
  | last only =>
    have some := (accepts.opens only).length_pos
    obtain ⟨n, rfl⟩ := Nat.exists_eq_add_one.mpr (Nat.lt_of_lt_of_le some enough)
    rw [items_item accepts only long blank closes.solid.1 (closes.ends rest), if_neg closes.solid.2]
    simp
  | @more u before behind w x ys first front back others ih =>
    simp only [List.length_append, List.length_cons] at long enough
    have some := (accepts.opens first).length_pos
    obtain ⟨n, rfl⟩ : ∃ m, n = m + 1 := ⟨n - 1, by omega⟩
    have more := ih (by omega) (n := n) (by omega) (x :: done)
    have next := ((items_opens accepts others).append (after ++ .char close :: rest)).skip
    simp only [List.append_assoc, List.cons_append]
    rw [items_item accepts first (by omega) front (by decide) (ends_char (by decide) (by decide)),
      if_pos rfl, skip_append back, next, more]
    simp

theorem items_tooDeep (accepts : Accepts fuel read item deep) {t : Text}
    (reaches : Reaches item deep t) (long : t.length ≤ fuel) {n : Nat} (enough : t.length ≤ n)
    (done : List α) : items read close n done t = .error .tooDeep := by
  induction reaches generalizing n done with
  | here reached =>
    have some := (accepts.opensDeep reached).length_pos
    obtain ⟨n, rfl⟩ := Nat.exists_eq_add_one.mpr (Nat.lt_of_lt_of_le some enough)
    simp only [items, accepts.tooDeep reached long]
  | @later u before behind w x first front back others ih =>
    simp only [List.length_append, List.length_cons] at long enough
    have some := (accepts.opens first).length_pos
    obtain ⟨n, rfl⟩ : ∃ m, n = m + 1 := ⟨n - 1, by omega⟩
    have more := ih (by omega) (n := n) (by omega) (x :: done)
    rw [items_item accepts first (by omega) front (by decide) (ends_char (by decide) (by decide)),
      if_pos rfl, skip_append back, (reaches_opens accepts others).skip, more]

theorem enclosed_opens (closes : Closes close) {before t : Text} (blank : Blanks before)
    (opens : Opens t) : enclosed read close fuel (before ++ t) = items read close fuel [] t := by
  obtain ⟨c, after, rfl, visible, inner⟩ := opens
  have other : c ≠ close := by
    rintro rfl
    exact inner closes
  rw [enclosed, skip_append blank, skip_eq_self visible.solid]
  simp only [if_neg other]

theorem enclosed_accepts (accepts : Accepts fuel read item deep) (closes : Closes close) {t : Text}
    {xs : List α} (inner : Enclosed item close t xs) (long : t.length ≤ fuel) (rest : Text) :
    enclosed read close fuel (t ++ rest) = .ok (xs, rest) := by
  cases inner with
  | empty blank =>
    rw [List.append_assoc, List.singleton_append, enclosed, skip_append blank,
      skip_eq_self closes.solid.1]
    simp
  | items front items back =>
    simp only [List.length_append] at long
    simp only [List.append_assoc, List.singleton_append]
    rw [enclosed_opens closes front ((items_opens accepts items).append _)]
    exact items_accepts accepts closes items (by omega) (by omega) [] back rest

theorem enclosed_tooDeep (accepts : Accepts fuel read item deep) (closes : Closes close)
    {before t : Text} (blank : Blanks before) (reaches : Reaches item deep t)
    (long : t.length ≤ fuel) : enclosed read close fuel (before ++ t) = .error .tooDeep := by
  rw [enclosed_opens closes blank (reaches_opens accepts reaches)]
  exact items_tooDeep accepts reaches long long []

theorem member_name {quoted key before after t : Text} (name : IsString quoted key)
    (front : Blanks before) (back : Blanks after) (opens : Opens t) (read : Text → Read Json) :
    member read (quoted ++ (before ++ .char ':' :: (after ++ t))) =
      (read t).map fun (v, rest) => ((key, v), rest) := by
  obtain ⟨s, rfl, found⟩ := name.read
  have colon (rest : Text) : skip (.char ':' :: rest) = .char ':' :: rest :=
    skip_eq_self (by decide) rest
  rw [List.cons_append, member]
  simp only [found, skip_append front, colon, skip_append back, opens.skip]

theorem member_accepts {read : Text → Read Json} {value : Text → Json → Prop}
    (accepts : Accepts fuel read value deep) :
    Accepts fuel (member read) (Member value) (MemberReaches deep) := by
  have quote {quoted key : Text} (name : IsString quoted key) : Opens quoted := by
    obtain ⟨s, rfl, -⟩ := name.read
    exact ⟨'"', s, rfl, by decide⟩
  constructor
  case opens =>
    rintro _ _ ⟨name, _, _, _⟩
    exact (quote name).append _
  case opensDeep =>
    rintro _ ⟨name, _, _, _⟩
    exact (quote name).append _
  case ok =>
    rintro _ _ rest ⟨name, front, back, body⟩ long ends
    simp only [List.length_append, List.length_cons] at long
    simp only [List.append_assoc, List.cons_append]
    rw [member_name name front back ((accepts.opens body).append rest),
      accepts.ok body (by omega) ends]
    rfl
  case tooDeep =>
    rintro _ ⟨name, front, back, reached⟩ long
    simp only [List.length_append, List.length_cons] at long
    rw [member_name name front back (accepts.opensDeep reached), accepts.tooDeep reached (by omega)]
    rfl

theorem value_accepts (dialect : Dialect) (fuel depth : Nat) :
    Accepts fuel (value dialect fuel depth) (Value dialect depth) (Exceeds dialect depth) := by
  induction depth with
  | zero =>
    constructor
    case opens => exact opens_scalar
    case opensDeep =>
      rintro _ ⟨c, rest, bracket, rfl⟩
      rcases bracket with rfl | rfl <;> exact ⟨_, rest, rfl, by decide⟩
    case ok => exact fun scalar _ ends => value_scalar scalar fuel 0 ends
    case tooDeep =>
      rintro _ ⟨c, rest, bracket, rfl⟩ -
      rcases bracket with rfl | rfl <;> rfl
  | succ depth ih =>
    have members := member_accepts ih
    constructor
    case opens =>
      rintro _ _ (scalar | _ | _)
      · exact opens_scalar scalar
      · exact ⟨'[', _, rfl, by decide⟩
      · exact ⟨'\x7b', _, rfl, by decide⟩
    case opensDeep =>
      rintro _ (_ | _)
      · exact ⟨'[', _, rfl, by decide⟩
      · exact ⟨'\x7b', _, rfl, by decide⟩
    case ok =>
      rintro _ _ rest (scalar | inner | inner) long ends
      · exact value_scalar scalar fuel (depth + 1) ends
      · simp only [List.length_cons] at long
        rw [List.cons_append, value, enclosed_accepts ih (.inl rfl) inner (by omega)]
        rfl
      · simp only [List.length_cons] at long
        rw [List.cons_append, value, enclosed_accepts members (.inr rfl) inner (by omega)]
        rfl
    case tooDeep =>
      rintro _ (⟨front, inner⟩ | ⟨front, inner⟩) long
      · simp only [List.length_cons, List.length_append] at long
        rw [value, enclosed_tooDeep ih (.inl rfl) front inner (by omega)]
        rfl
      · simp only [List.length_cons, List.length_append] at long
        rw [value, enclosed_tooDeep members (.inr rfl) front inner (by omega)]
        rfl

end Reader

open Grammar

variable {dialect : Dialect} {t : Text}

theorem read_document [Runtime] {v : Json} (document : Document dialect Runtime.nesting t v) :
    read dialect t = .ok v := by
  obtain @⟨before, u, after, _, front, isValue, back⟩ := document
  have accepts := Reader.value_accepts dialect (before ++ (u ++ after)).length Runtime.nesting
  have ends := Reader.ends_append back Reader.ends_nil
  rw [List.append_nil] at ends
  rw [read, Reader.skip_append front, ((accepts.opens isValue).append after).skip,
    accepts.ok isValue (by simp only [List.length_append]; omega) ends]
  exact if_pos (List.dropWhile_eq_nil_iff.mpr back)

theorem read_overruns [Runtime] (overruns : Overruns dialect Runtime.nesting t) :
    read dialect t = .error .tooDeep := by
  obtain @⟨before, u, front, deep⟩ := overruns
  have accepts := Reader.value_accepts dialect (before ++ u).length Runtime.nesting
  rw [read, Reader.skip_append front, (accepts.opensDeep deep).skip,
    accepts.tooDeep deep (by simp only [List.length_append]; omega)]

end RequestLine.Json
