import RequestLine.Proofs.Body
import RequestLine.Proofs.Line.Sections

set_option autoImplicit false

namespace RequestLine

namespace Json

def NamesConstant (t : Text) : Prop :=
  Text.ofString "NaN" <:+: t ∨ Text.ofString "Infinity" <:+: t

instance (t : Text) : Decidable (NamesConstant t) := inferInstanceAs (Decidable (_ ∨ _))

namespace Reader

def Agree {α : Type} (text : Text) (strict lenient : Text → Read α) : Prop :=
  ∀ t, t <:+ text → strict t = lenient t ∨ strict t = .error .malformed ∧ NamesConstant text

theorem number_constant {w : String × Json} (constant : w ∈ constants .lenient) (rest : Text) :
    number (Text.ofString w.1 ++ rest) = .error .malformed := by
  simp only [constants, List.mem_cons, List.not_mem_nil, or_false] at constant
  rcases constant with rfl | rfl | rfl <;> rfl

theorem namesConstant_of_constant {w : String × Json} (constant : w ∈ constants .lenient)
    {text : Text} (inside : Text.ofString w.1 <:+: text) : NamesConstant text := by
  simp only [constants, List.mem_cons, List.not_mem_nil, or_false] at constant
  rcases constant with rfl | rfl | rfl
  · exact .inl inside
  · exact .inr inside
  · have signed : Text.ofString "Infinity" <:+: Text.ofString "-Infinity" :=
      ⟨[.char '-'], [], rfl⟩
    exact .inr (signed.trans inside)

theorem word?_cases (t : Text) :
    word? .strict t = word? .lenient t ∨
      word? .strict t = none ∧ ∃ w ∈ constants .lenient, Text.ofString w.1 <+: t := by
  simp only [word?, constants, List.append_nil, List.findSome?_append]
  cases words.findSome? fun w =>
      ((Text.ofString w.1).isPrefixOf? t).map fun rest => (w.2, rest) with
  | some read => exact .inl rfl
  | none =>
    rw [Option.none_or]
    cases constant : (constants .lenient).findSome? fun w =>
        ((Text.ofString w.1).isPrefixOf? t).map fun rest => (w.2, rest) with
    | none => exact .inl constant.symm
    | some read =>
      obtain ⟨w, member, found⟩ := List.exists_of_findSome?_eq_some constant
      obtain ⟨rest, front, -⟩ := Option.map_eq_some_iff.mp found
      rw [List.isPrefixOf?_eq_some_iff_append_eq] at front
      exact .inr ⟨rfl, w, member, rest, front⟩

theorem scalar_agree (text : Text) : Agree text (scalar .strict) (scalar .lenient) := by
  intro t inside
  unfold scalar
  split
  next => exact .inl rfl
  next =>
    rcases word?_cases t with same | ⟨none, w, constant, rest, rfl⟩
    · exact .inl (by rw [same])
    · rw [none]
      have named := (List.prefix_append (Text.ofString w.1) rest).isInfix.trans inside.isInfix
      exact .inr ⟨number_constant constant rest, namesConstant_of_constant constant named⟩

variable {α : Type} {text : Text} {strict lenient : Text → Read α} {item : Text → α → Prop}
  {deep : Text → Prop} {close : Char}

theorem items_agree (agree : Agree text strict lenient)
    (takes : ∀ t, Takes item deep t (strict t)) (fuel : Nat) (done : List α) :
    Agree text (items strict close fuel done) (items lenient close fuel done) := by
  induction fuel generalizing done with
  | zero => exact fun t _ => .inl rfl
  | succ fuel ih =>
    intro t inside
    rcases agree t inside with same | ⟨failed, named⟩
    · simp only [items, ← same]
      cases first : strict t with
      | error fault => exact .inl rfl
      | ok read =>
        obtain ⟨x, rest⟩ := read
        have left := (first ▸ takes t).suffix.trans inside
        dsimp only
        split
        next c more skipped =>
          by_cases comma : c = ','
          · rw [if_pos comma, if_pos comma]
            -- Behind the comma both are at the same end of the text again.
            have behind : more <:+ text :=
              (List.suffix_cons _ more).trans ((skipped ▸ skip_suffix rest).trans left)
            exact ih _ _ ((skip_suffix more).trans behind)
          · rw [if_neg comma, if_neg comma]
            exact .inl rfl
        next => exact .inl rfl
    · refine .inr ⟨?_, named⟩
      simp only [items, failed]

theorem enclosed_agree (agree : Agree text strict lenient)
    (takes : ∀ t, Takes item deep t (strict t)) (fuel : Nat) :
    Agree text (enclosed strict close fuel) (enclosed lenient close fuel) := by
  intro t inside
  unfold enclosed
  split
  next c more skipped =>
    split
    next => exact .inl rfl
    next => exact items_agree agree takes fuel [] _ ((skipped ▸ skip_suffix t).trans inside)
  next => exact .inl rfl

theorem member_agree {strict lenient : Text → Read Json} (agree : Agree text strict lenient) :
    Agree text (member strict) (member lenient) := by
  intro t inside
  unfold member
  split
  next quoted =>
    cases key : string quoted with
    | error fault => exact .inl rfl
    | ok read =>
      obtain ⟨name, rest⟩ := read
      dsimp only
      split
      next afterColon skipped =>
        have colon : .char ':' :: afterColon <:+ quoted :=
          (skipped ▸ skip_suffix rest).trans (key ▸ takes_string quoted).suffix
        have behind : skip afterColon <:+ text :=
          ((skip_suffix afterColon).trans (List.suffix_cons _ _)).trans
            ((colon.trans (List.suffix_cons _ _)).trans inside)
        rcases agree _ behind with same | ⟨failed, named⟩
        · exact .inl (by rw [same])
        · exact .inr ⟨by rw [failed]; rfl, named⟩
      next => exact .inl rfl
  next => exact .inl rfl

theorem value_agree (text : Text) (fuel depth : Nat) :
    Agree text (value .strict fuel depth) (value .lenient fuel depth) := by
  -- Only the depth goes down with the recursion; the fuel is spent on the items.
  induction depth with
  | zero =>
    intro t inside
    unfold value
    split
    next => exact .inl rfl
    next => exact .inl rfl
    next => exact scalar_agree text t inside
  | succ depth ih =>
    intro t inside
    have takes := takes_value .strict fuel depth
    unfold value
    split
    next inner =>
      have behind := (List.suffix_cons _ inner).trans inside
      rcases enclosed_agree ih takes fuel inner behind with same | ⟨failed, named⟩
      · exact .inl (by rw [same])
      · exact .inr ⟨by rw [failed]; rfl, named⟩
    next inner =>
      have behind := (List.suffix_cons _ inner).trans inside
      rcases enclosed_agree (member_agree ih) (takes_member takes) fuel inner behind with
        same | ⟨failed, named⟩
      · exact .inl (by rw [same])
      · exact .inr ⟨by rw [failed]; rfl, named⟩
    next => exact scalar_agree text t inside

end Reader

theorem read_cases [Runtime] (t : Text) :
    read .strict t = read .lenient t ∨ read .strict t = .error .malformed ∧ NamesConstant t := by
  have agree := Reader.value_agree t t.length Runtime.nesting (Reader.skip t) (Reader.skip_suffix t)
  unfold read
  rcases agree with same | ⟨failed, named⟩
  · exact .inl (by rw [same])
  · exact .inr ⟨by rw [failed], named⟩

end Json

theorem Body.decode_of_strict [Runtime] {t : Text} {v : Json} (h : Json.read .strict t = .ok v) :
    Body.decode t = .ok v := by
  have lenient : Json.read .lenient t = .ok v := by
    rcases Json.read_cases t with same | ⟨failed, -⟩
    · rw [← same, h]
    · rw [failed] at h
      contradiction
  exact decode_of_lenient lenient

namespace Json

/-- A text is read alike by both dialects unless it names a constant, which then makes the strict
one fail. So whatever a body section may hold is read from the body of a reply as the same value. -/
theorem dialects_agree [Runtime] (t : Text) :
    (∀ v, read .strict t = .ok v → Body.decode t = .ok v) ∧
    (∀ values after,
      Line.parseSection values (Text.ofString Keyword.body.name ++ .char ' ' :: t) = .ok after →
        ∃ v, after.body = some v ∧ read .strict t.strip = .ok v ∧ Body.decode t.strip = .ok v) ∧
    (¬ NamesConstant t → (∀ v, read .strict t = .ok v ↔ read .lenient t = .ok v) ∧
      ∀ fault, read .strict t = .error fault ↔ read .lenient t = .error fault) ∧
    (read .strict t ≠ read .lenient t →
      NamesConstant t ∧ read .strict t = .error .malformed) := by
  refine ⟨fun v => Body.decode_of_strict, ?_, ?_, ?_⟩
  · intro values after h
    rw [Line.parseSection_append, bind_eq_ok] at h
    obtain ⟨v, decoded, set⟩ := h
    cases set
    have strict := mapError_eq_ok.mp decoded
    exact ⟨v, rfl, strict, Body.decode_of_strict strict⟩
  · intro plain
    have same := (read_cases t).resolve_right fun failed => plain failed.2
    rw [same]
    exact ⟨fun v => Iff.rfl, fun fault => Iff.rfl⟩
  · intro differ
    have failed := (read_cases t).resolve_left differ
    exact ⟨failed.2, failed.1⟩

theorem quoted_constant_read :
    let quoted := Text.ofString "[\"NaN\", 1]"
    let v : Json := .arr [.str (Text.ofString "NaN"), .int 1]
    let misspelled := Text.ofString "[1, nan]"
    let bare := Text.ofString "[1, NaN]"
    Body.decode quoted = .ok v ∧ Body.decode quoted.strip = .ok v ∧
      read .lenient misspelled = .error .malformed ∧ NamesConstant bare := by
  intro quoted v misspelled bare
  have strict : read .strict quoted = .ok v := by rfl
  have malformed : read .strict misspelled = .error .malformed := by rfl
  have differ : read .strict bare ≠ read .lenient bare := nofun
  have plain : ¬ NamesConstant misspelled := by decide +kernel
  obtain ⟨decoded, inSection, -⟩ := dialects_agree quoted
  obtain ⟨w, body, -, same⟩ := inSection {} { body := some v } (by rfl)
  cases body
  exact ⟨decoded v strict, same, (((dialects_agree misspelled).2.2.1 plain).2 _).mp malformed,
    ((dialects_agree bare).2.2.2 differ).1⟩

end Json

end RequestLine
