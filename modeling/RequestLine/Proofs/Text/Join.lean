import RequestLine.Text

set_option autoImplicit false

namespace RequestLine.Text

theorem join_cons_cons (between : String) (first second : Text) (parts : List Text) :
    join between (first :: second :: parts) =
      first ++ ofString between ++ join between (second :: parts) :=
  List.intercalate_cons_of_ne_nil (by simp)

theorem join_singleton (between : String) (only : Text) : join between [only] = only := by
  simp [join]

theorem join_concat (between : String) {parts : List Text} (some : parts ≠ []) (last : Text) :
    join between (parts ++ [last]) = join between parts ++ ofString between ++ last := by
  induction parts with
  | nil => contradiction
  | cons first parts ih =>
    cases parts with
    | nil => simp [join_cons_cons, join_singleton]
    | cons second parts =>
      have more := ih (by simp)
      rw [List.cons_append] at more ⊢
      rw [List.cons_append, join_cons_cons, more, join_cons_cons]
      simp only [List.append_assoc]

theorem isInfix_join (between : String) {parts : List Text} {part : Text}
    (member : part ∈ parts) : part <:+: join between parts := by
  induction parts with
  | nil => contradiction
  | cons first parts ih =>
    cases parts with
    | nil =>
      rw [join_singleton]
      exact List.mem_singleton.mp member ▸ List.infix_rfl
    | cons second parts =>
      rw [join_cons_cons]
      rcases List.mem_cons.mp member with rfl | later
      · exact ((List.prefix_append _ _).trans (List.prefix_append _ _)).isInfix
      · exact (ih later).trans (List.suffix_append _ _).isInfix

theorem forall_mem_join {p : Symbol → Prop} {between : String} {parts : List Text}
    (separator : ∀ s ∈ ofString between, p s) (each : ∀ part ∈ parts, ∀ s ∈ part, p s) :
    ∀ s ∈ join between parts, p s := by
  induction parts with
  | nil => simp [join]
  | cons first parts ih =>
    rw [List.forall_mem_cons] at each
    cases parts with
    | nil =>
      rw [join_singleton]
      exact each.1
    | cons second parts =>
      rw [join_cons_cons]
      exact List.forall_mem_append.mpr ⟨List.forall_mem_append.mpr ⟨each.1, separator⟩, ih each.2⟩

theorem length_le_join (between : String) {parts : List Text} {part : Text}
    (member : part ∈ parts) : part.length ≤ (join between parts).length :=
  (isInfix_join between member).length_le

theorem flatMap_join (f : Symbol → Text) {between : String}
    (kept : (ofString between).flatMap f = ofString between) (parts : List Text) :
    (join between parts).flatMap f = join between (parts.map (·.flatMap f)) := by
  induction parts with
  | nil => rfl
  | cons first parts ih =>
    cases parts with
    | nil => simp [join]
    | cons second parts =>
      simp only [join_cons_cons, List.flatMap_append, kept, ih, List.map_cons]

end RequestLine.Text
