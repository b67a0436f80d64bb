import RequestLine.Proofs.Json.Depth
import RequestLine.Proofs.Json.Rule
import RequestLine.Proofs.Json.Sound
import RequestLine.Proofs.Json.Strings
import RequestLine.Proofs.Text.Join

set_option autoImplicit false

namespace RequestLine.Json

open Grammar

inductive Separated : List (Text → Prop) → Text → Prop where
  | nil : Separated [] []
  | last {part : Text → Prop} {t : Text} (only : part t) : Separated [part] t
  | more {part next : Text → Prop} {parts : List (Text → Prop)} {t blanks rest : Text}
      (first : part t) (blank : Blanks blanks) (others : Separated (next :: parts) rest) :
      Separated (part :: next :: parts) (t ++ .char ',' :: (blanks ++ rest))

inductive SpacedMember (spell : Symbol → Text) (key : Text) (value : Text → Prop) :
    Text → Prop where
  | mk {blanks t : Text} (blank : Blanks blanks) (body : value t) :
      SpacedMember spell key value (quoted spell key ++ .char ':' :: (blanks ++ t))

def spacedAlgebra (spell : Symbol → Text) : Algebra (Text → Prop) where
  null t := t = Writer.algebra.null
  bool b t := t = Writer.algebra.bool b
  int n t := t = Writer.algebra.int n
  float x t := t = Writer.algebra.float x
  str s t := t = quoted spell s
  arr parts t := ∃ inner, Separated parts inner ∧ t = .char '[' :: (inner ++ [.char ']'])
  obj parts t := ∃ inner, Separated (parts.map fun m => SpacedMember spell m.1 m.2) inner ∧
    t = .char '\x7b' :: (inner ++ [.char '\x7d'])

def Spaced (spell : Symbol → Text) (v : Json) : Text → Prop := v.fold (spacedAlgebra spell)

section

variable {spell : Symbol → Text}

theorem spaced_arr {elements : List Json} {t : Text} :
    Spaced spell (.arr elements) t ↔ ∃ inner, Separated (elements.map (Spaced spell)) inner ∧
      t = .char '[' :: (inner ++ [.char ']']) := by
  rw [Spaced, fold_arr]
  rfl

theorem spaced_obj {members : Members} {t : Text} :
    Spaced spell (.obj members) t ↔
      ∃ inner, Separated (members.map fun m => SpacedMember spell m.1 (Spaced spell m.2)) inner ∧
        t = .char '\x7b' :: (inner ++ [.char '\x7d']) := by
  rw [Spaced, fold_obj]
  simp only [spacedAlgebra, List.map_map]
  rfl

theorem separated_join {α : Type} {f : α → Text → Prop} {g : α → Text} {xs : List α}
    (each : ∀ x ∈ xs, f x (g x)) : Separated (xs.map f) (Text.join ", " (xs.map g)) := by
  induction xs with
  | nil => exact .nil
  | cons x xs ih =>
    rw [List.forall_mem_cons] at each
    cases xs with
    | nil => exact Text.join_singleton ", " (g x) ▸ .last each.1
    | cons y ys =>
      have blank : Blanks [.char ' '] := by decide
      have more := Separated.more each.1 blank (ih each.2)
      simpa [Text.join_cons_cons, Text.ofString] using more

end

namespace Grammar

theorem Value.of_scalar {dialect : Dialect} {t : Text} {v : Json} (scalar : Scalar dialect t v)
    (depth : Nat) : Value dialect depth t v := by
  cases depth with
  | zero => exact scalar
  | succ depth => exact .scalar scalar

theorem Scalar.of_number {dialect : Dialect} {t : Text} {v : Json}
    (h : Reader.number (t ++ []) = .ok (v, [])) : Scalar dialect t v := by
  obtain ⟨u, same, number⟩ := (h ▸ Reader.takes_number (t ++ [])).of_ok
  rw [List.append_nil, List.append_nil] at same
  exact .number (same ▸ number)

theorem isString_quoted {spell : Symbol → Text} (faithful : Faithful spell) {key : Text}
    (unpaired : Unpaired key) : IsString (quoted spell key) key := by
  have read := string_quoted faithful unpaired []
  obtain ⟨u, same, isString⟩ := (read ▸ Reader.takes_string _).of_ok
  rw [List.append_nil] at same
  rw [quoted, same]
  exact isString

theorem Items.of_separated {α : Type} {f : α → Text → Prop} {item : Text → α → Prop} {xs : List α}
    (some : xs ≠ []) (each : ∀ x ∈ xs, ∀ t, f x t → item t x) {t : Text}
    (separated : Separated (xs.map f) t) : Items item t xs := by
  induction xs generalizing t with
  | nil => contradiction
  | cons x xs ih =>
    rw [List.forall_mem_cons] at each
    cases xs with
    | nil =>
      cases separated with
      | last only => exact .last (each.1 _ only)
    | cons y ys =>
      cases separated with
      | more first blank others =>
        exact .more (each.1 _ first) blanks_nil blank (ih (by simp) each.2 others)

theorem Enclosed.of_separated {α : Type} {f : α → Text → Prop} {item : Text → α → Prop}
    {xs : List α} (each : ∀ x ∈ xs, ∀ t, f x t → item t x) {t : Text}
    (separated : Separated (xs.map f) t) (close : Char) :
    Enclosed item close (t ++ [.char close]) xs := by
  cases xs with
  | nil =>
    cases separated
    exact .empty blanks_nil
  | cons x xs => exact .items blanks_nil (.of_separated (by simp) each separated) blanks_nil

end Grammar

structure Rule.Expressible (rule : Rule) (dialect : Dialect) : Prop where
  int : ∀ n, rule.int n → n.natAbs < Nat.pow 10 Text.maxDigits
  float : ∀ x, rule.float x → Scalar dialect (x.text Writer.doubleNames) (.float x)
  str : ∀ t, rule.str t → Unpaired t
  keys : ∀ ks, rule.keys ks → ks.Nodup ∧ ∀ key ∈ ks, Unpaired key

theorem value_spaced {rule : Rule} {dialect : Dialect} (expressible : rule.Expressible dialect)
    {spell : Symbol → Text} (faithful : Faithful spell) {v : Json} (h : v.Obeys rule) {depth : Nat}
    (shallow : v.depth ≤ depth) {t : Text} (spaced : Spaced spell v t) :
    Value dialect depth t v := by
  have word {w : String × Json} (known : w ∈ Reader.words) (depth : Nat) :
      Value dialect depth (Text.ofString w.1) w.2 :=
    .of_scalar (.word (List.mem_append_left _ known)) depth
  induction v using Json.induction generalizing depth t with
  | null =>
    cases spaced
    have known : ("null", Json.null) ∈ Reader.words := List.mem_cons_self
    exact word known depth
  | bool b =>
    cases spaced
    have known : (if b then "true" else "false", Json.bool b) ∈ Reader.words := by
      cases b <;> simp [Reader.words]
    cases b <;> exact word known depth
  | int n =>
    cases spaced
    have read := Reader.number_ofInt (expressible.int n h) Reader.ends_nil
    exact .of_scalar (.of_number read) depth
  | float x =>
    cases spaced
    exact .of_scalar (expressible.float x h) depth
  | str t =>
    cases spaced
    exact .of_scalar (.string (isString_quoted faithful (expressible.str t h))) depth
  | arr elements ih =>
    obtain ⟨depth, rfl⟩ := Nat.exists_eq_add_one.mpr (Nat.lt_of_lt_of_le (depth_pos _) shallow)
    rw [depth_arr_le] at shallow
    rw [obeys_arr] at h
    obtain ⟨inner, separated, rfl⟩ := spaced_arr.mp spaced
    refine .arr (.of_separated (fun v member t => ?_) separated ']')
    exact ih v member (h v member) (shallow v member)
  | obj members ih =>
    obtain ⟨depth, rfl⟩ := Nat.exists_eq_add_one.mpr (Nat.lt_of_lt_of_le (depth_pos _) shallow)
    rw [depth_obj_le] at shallow
    obtain ⟨whole, values⟩ := (obeys_obj members).mp h
    obtain ⟨differ, unpaired⟩ := expressible.keys _ whole
    obtain ⟨inner, separated, rfl⟩ := spaced_obj.mp spaced
    have each (m : Text × Json) (member : m ∈ members) (t : Text)
        (one : SpacedMember spell m.1 (Spaced spell m.2) t) :
        Member (Value dialect depth) t m := by
      obtain ⟨blank, body⟩ := one
      have name := isString_quoted faithful (unpaired m.1 (List.mem_map_of_mem member))
      exact .mk name blanks_nil blank (ih m member (values m member) (shallow m member) body)
    have written : Value dialect (depth + 1) _ (.obj (collect members)) :=
      .obj (.of_separated each separated '\x7d')
    rwa [collect_eq_self differ] at written

end RequestLine.Json
