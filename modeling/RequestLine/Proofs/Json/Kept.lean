import RequestLine.Proofs.Double.Rounding
import RequestLine.Proofs.Json.Rule
import RequestLine.Proofs.Json.Sound

set_option autoImplicit false

namespace RequestLine.Json

namespace Grammar

variable {α : Type} {item : Text → α → Prop} {t : Text} {xs : List α}

theorem Items.exists_inside (items : Items item t xs) : ∀ x ∈ xs, ∃ u, u <:+: t ∧ item u x := by
  induction items with
  | @last t x only => exact List.forall_mem_singleton.mpr ⟨t, List.infix_rfl, only⟩
  | @more t before after rest x xs first _ _ _ ih =>
    refine List.forall_mem_cons.mpr ⟨⟨t, List.infix_append [] t _, first⟩, fun y member => ?_⟩
    obtain ⟨u, inside, found⟩ := ih y member
    refine ⟨u, inside.trans ⟨t ++ (before ++ .char ',' :: after), [], ?_⟩, found⟩
    simp

theorem Enclosed.exists_inside {close : Char} (enclosed : Enclosed item close t xs) :
    ∀ x ∈ xs, ∃ u, u <:+: t ∧ item u x := by
  cases enclosed with
  | empty inner => nofun
  | @items before t after xs front items back =>
    intro x member
    obtain ⟨u, inside, found⟩ := items.exists_inside x member
    exact ⟨u, inside.trans (List.infix_append' before t _), found⟩

theorem Member.exists_inside {value : Text → Json → Prop} {m : Text × Json}
    (member : Member value t m) : ∃ u, u <:+: t ∧ value u m.2 := by
  obtain @⟨quoted, key, before, after, u, v, _, _, _, body⟩ := member
  refine ⟨u, ⟨quoted ++ (before ++ .char ':' :: after), [], ?_⟩, body⟩
  simp

end Grammar

open Grammar

/-- The leaves that can stand in the text obey the rule, and so do the keys of an object. -/
structure Rule.Kept (rule : Rule) (dialect : Dialect) (text : Text) : Prop where
  number : ∀ t v, t <:+: text → IsNumber t v → Obeys rule v
  constant : ∀ w ∈ Reader.constants dialect, Obeys rule w.2
  string : ∀ t, rule.str t
  collected : ∀ written : Members, rule.keys (Json.keys (collect written))

section

variable {rule : Rule} {dialect : Dialect} {text t : Text} {v : Json}

theorem obeys_scalar (kept : rule.Kept dialect text) (scalar : Scalar dialect t v)
    (inside : t <:+: text) : Obeys rule v := by
  cases scalar with
  | word known =>
    rcases List.mem_append.mp known with word | constant
    · simp only [Reader.words, List.mem_cons, List.not_mem_nil, or_false] at word
      rcases word with rfl | rfl | rfl <;> trivial
    · exact kept.constant _ constant
  | string => exact kept.string _
  | number number => exact kept.number t v inside number

theorem obeys_value (kept : rule.Kept dialect text) {depth : Nat} (value : Value dialect depth t v)
    (inside : t <:+: text) : Obeys rule v := by
  induction depth generalizing t v with
  | zero => exact obeys_scalar kept value inside
  | succ depth ih =>
    have behind (s : Symbol) (u : Text) : u <:+: s :: u := (List.suffix_cons s u).isInfix
    cases value with
    | scalar scalar => exact obeys_scalar kept scalar inside
    | arr inner =>
      refine (obeys_arr _).mpr fun v member => ?_
      obtain ⟨u, part, isValue⟩ := inner.exists_inside v member
      exact ih isValue ((part.trans (behind _ _)).trans inside)
    | obj inner =>
      refine (obeys_obj _).mpr ⟨kept.collected _, fun m member => ?_⟩
      obtain ⟨u, part, isMember⟩ := inner.exists_inside m (mem_of_mem_collect member)
      obtain ⟨w, body, isValue⟩ := isMember.exists_inside
      exact ih isValue (((body.trans part).trans (behind _ _)).trans inside)

theorem obeys_read [Runtime] (kept : rule.Kept dialect t) (h : read dialect t = .ok v) :
    Obeys rule v := by
  obtain @⟨before, u, after, _, -, value, -⟩ := document_of_read h
  exact obeys_value kept value (List.infix_append' before u after)

end

def tidy : Rule where
  int n := n.natAbs < Nat.pow 10 Text.maxDigits
  keys ks := ks.Nodup

theorem tidy_int {n : Int} : Obeys tidy (.int n) ↔ n.natAbs < Nat.pow 10 Text.maxDigits := Iff.rfl

theorem tidy_number {t : Text} {v : Json} (number : IsNumber t v) : Obeys tidy v := by
  cases number with
  | int each _ _ short =>
    have bound := Nat.pow_le_pow_right (n := 10) (by decide) short
    rw [tidy_int, Double.natAbs_signed, Numeral.pow_ten]
    exact Nat.lt_of_lt_of_le (Numeral.natural_lt each) bound
  | float => trivial

theorem tidy_kept (dialect : Dialect) (text : Text) : tidy.Kept dialect text where
  number _ _ _ := tidy_number
  constant w member := by
    cases dialect
    · contradiction
    · simp only [Reader.constants, List.mem_cons, List.not_mem_nil, or_false] at member
      rcases member with rfl | rfl | rfl <;> trivial
  string _ := trivial
  collected := nodup_keys_collect

theorem tidy_of_read [Runtime] {dialect : Dialect} {t : Text} {v : Json}
    (h : read dialect t = .ok v) :
    Obeys tidy v :=
  obeys_read (tidy_kept dialect t) h

end RequestLine.Json
