import Mathlib.Data.List.Basic
import RequestLine.Proofs.Text.Join
import RequestLine.Text.Split

set_option autoImplicit false

namespace RequestLine.Text

def separator : Text := ofString " | "

def halfSeparator : Text := ofString " |"

structure IsSplit (t : Text) (parts : List Text) : Prop where
  joined : Text.join " | " parts = t
  whole : ∀ part ∈ parts, ¬ separator <:+: part
  closed : ∀ part ∈ parts.dropLast, ¬ halfSeparator <:+ part

theorem separator_eq : separator = [.char ' ', .char '|', .char ' '] := rfl

theorem halfSeparator_eq : halfSeparator = [.char ' ', .char '|'] := rfl

theorem not_separator_of_notMem {t : Text} (absent : Symbol.char '|' ∉ t) :
    ¬ separator <:+: t ∧ ¬ halfSeparator <:+ t :=
  ⟨fun found => absent (found.subset (by decide)), fun found => absent (found.subset (by decide))⟩

theorem join_cons {parts : List Text} (part : Text) (more : parts ≠ []) :
    Text.join " | " (part :: parts) = part ++ separator ++ Text.join " | " parts :=
  List.intercalate_cons_of_ne_nil more

def segmentsOf : Text → List Text
  | [] => [[]]
  | .char ' ' :: .char '|' :: .char ' ' :: rest => [] :: segmentsOf rest
  | s :: rest => (segmentsOf rest).modifyHead (s :: ·)

theorem segmentsOf_ne_nil (t : Text) : segmentsOf t ≠ [] := by
  fun_induction segmentsOf t with
  | case1 => simp
  | case2 rest ih => simp
  | case3 s rest notSeparator ih => simpa using ih

theorem segmentsFrom_eq (done : List Text) (part t : Text) :
    segmentsFrom done part t =
      done.reverse ++ (segmentsOf t).modifyHead (part.reverse ++ ·) := by
  fun_induction segmentsFrom done part t with
  | case1 done part => simp [segmentsOf]
  | case2 done part rest ih => cases h : segmentsOf rest <;> simp [segmentsOf, ih, h]
  | case3 done part s rest notSeparator ih =>
    cases h : segmentsOf rest <;> simp [segmentsOf, ih, h]

theorem segments_eq (t : Text) : segments t = segmentsOf t := by
  rw [segments, segmentsFrom_eq]
  cases segmentsOf t <;> simp

theorem segmentsOf_cons {s : Symbol} {t : Text} (notSeparator : ¬ separator <+: s :: t) :
    segmentsOf (s :: t) = (segmentsOf t).modifyHead (s :: ·) := by
  rw [segmentsOf]
  rintro rest rfl rfl
  exact notSeparator (by simp [separator_eq])

theorem join_segmentsOf (t : Text) : Text.join " | " (segmentsOf t) = t := by
  fun_induction segmentsOf t with
  | case1 => rfl
  | case2 rest ih => simp [join_cons, segmentsOf_ne_nil, ih, separator_eq]
  | case3 s rest notSeparator ih =>
    obtain ⟨part, parts, h⟩ := List.exists_cons_of_ne_nil (segmentsOf_ne_nil rest)
    rw [h] at ih ⊢
    exact (List.intercalate_cons_cons_left).trans (congrArg (s :: ·) ih)

theorem eq_append_of_segmentsOf {t part : Text} {parts : List Text}
    (h : segmentsOf t = part :: parts) :
    t = part ++ (if parts = [] then [] else separator ++ Text.join " | " parts) := by
  have joined := join_segmentsOf t
  rw [h] at joined
  split
  next last => simpa [last, Text.join] using joined.symm
  next more => simpa [join_cons _ more] using joined.symm

theorem not_separator_infix (t : Text) : ∀ part ∈ segmentsOf t, ¬ separator <:+: part := by
  fun_induction segmentsOf t with
  | case1 => simp [separator_eq]
  | case2 rest ih => simpa [separator_eq] using ih
  | case3 s rest notSeparator ih =>
    obtain ⟨part, parts, h⟩ := List.exists_cons_of_ne_nil (segmentsOf_ne_nil rest)
    rw [h] at ih ⊢
    -- A separator at the front of the part would have been one of the text.
    have ahead : ¬ separator <+: s :: part := by
      rw [eq_append_of_segmentsOf h] at notSeparator
      rintro ⟨more, found⟩
      simp only [separator_eq, List.cons_append, List.cons.injEq, List.nil_append] at found
      obtain ⟨rfl, rfl⟩ := found
      exact notSeparator _ rfl rfl
    intro p member
    rcases List.mem_cons.mp member with rfl | member
    · rw [List.infix_cons_iff]
      exact not_or.mpr ⟨ahead, ih part (by simp)⟩
    · exact ih p (by simp [member])

theorem not_halfSeparator_suffix (t : Text) :
    ∀ part ∈ (segmentsOf t).dropLast, ¬ halfSeparator <:+ part := by
  fun_induction segmentsOf t with
  | case1 => simp
  | case2 rest ih =>
    rw [List.dropLast_cons_of_ne_nil (segmentsOf_ne_nil rest)]
    simpa [halfSeparator_eq] using ih
  | case3 s rest notSeparator ih =>
    obtain ⟨part, parts, h⟩ := List.exists_cons_of_ne_nil (segmentsOf_ne_nil rest)
    rw [h] at ih ⊢
    by_cases last : parts = []
    · simp [last]
    -- A part that is the half separator itself would be followed by a blank.
    have ahead : halfSeparator ≠ s :: part := by
      rw [eq_append_of_segmentsOf h, if_neg last] at notSeparator
      intro found
      simp only [halfSeparator_eq, List.cons.injEq] at found
      obtain ⟨rfl, rfl⟩ := found
      exact notSeparator _ rfl rfl
    simp only [List.modifyHead_cons, List.dropLast_cons_of_ne_nil last, List.mem_cons,
      forall_eq_or_imp, List.suffix_cons_iff] at ih ⊢
    exact ⟨not_or.mpr ⟨ahead, ih.1⟩, ih.2⟩

theorem segmentsOf_eq_singleton {t : Text} (whole : ¬ separator <:+: t) : segmentsOf t = [t] := by
  induction t with
  | nil => rfl
  | cons s rest ih =>
    rw [List.infix_cons_iff, not_or] at whole
    rw [segmentsOf_cons whole.1, ih whole.2, List.modifyHead_cons]

theorem segmentsOf_append {part : Text} (rest : Text) (whole : ¬ separator <:+: part)
    (closed : ¬ halfSeparator <:+ part) :
    segmentsOf (part ++ separator ++ rest) = part :: segmentsOf rest := by
  induction part with
  | nil => rfl
  | cons s part ih =>
    rw [List.infix_cons_iff, not_or] at whole
    rw [List.suffix_cons_iff, not_or] at closed
    -- It would have to reach into the separator behind the part, by one or two symbols.
    have notHere : ¬ separator <+: s :: (part ++ separator ++ rest) := by
      rintro ⟨more, found⟩
      match part with
      | [] => simp [separator_eq] at found
      | [_] =>
        simp only [separator_eq, List.cons_append, List.nil_append, List.cons.injEq] at found
        obtain ⟨rfl, rfl, -⟩ := found
        exact closed.1 rfl
      | _ :: _ :: part =>
        simp only [separator_eq, List.cons_append, List.nil_append, List.cons.injEq] at found
        obtain ⟨rfl, rfl, rfl, -⟩ := found
        exact whole.1 ⟨part, rfl⟩
    rw [List.cons_append, List.cons_append, segmentsOf_cons notHere, ih whole.2 closed.2,
      List.modifyHead_cons]

theorem isSplit_segments (t : Text) : IsSplit t t.segments := by
  rw [segments_eq]
  exact ⟨join_segmentsOf t, not_separator_infix t, not_halfSeparator_suffix t⟩

theorem IsSplit.concat {t part : Text} {parts : List Text} (split : IsSplit t parts)
    (some : parts ≠ []) (closed : ¬ halfSeparator <:+ t) (whole : ¬ separator <:+: part) :
    IsSplit (t ++ separator ++ part) (parts ++ [part]) where
  joined := by rw [join_concat " | " some, split.joined, separator]
  whole := List.forall_mem_append.mpr ⟨split.whole, List.forall_mem_singleton.mpr whole⟩
  closed := by
    obtain ⟨front, last, rfl⟩ := (List.eq_nil_or_concat' parts).resolve_left some
    have before := split.closed
    rw [List.dropLast_concat] at before ⊢
    refine List.forall_mem_append.mpr ⟨before, List.forall_mem_singleton.mpr fun half => closed ?_⟩
    rw [← split.joined]
    by_cases alone : front = []
    · rwa [alone, List.nil_append, join_singleton]
    · rw [join_concat " | " alone]
      exact half.trans (List.suffix_append _ _)

theorem IsSplit.segments_eq {t : Text} {parts : List Text} (split : IsSplit t parts)
    (some : parts ≠ []) : t.segments = parts := by
  obtain ⟨rfl, whole, closed⟩ := split
  rw [Text.segments_eq]
  induction parts with
  | nil => contradiction
  | cons part parts ih =>
    by_cases last : parts = []
    · subst last
      simpa [Text.join] using segmentsOf_eq_singleton (whole part (by simp))
    rw [List.dropLast_cons_of_ne_nil last] at closed
    simp only [List.mem_cons, forall_eq_or_imp] at whole closed
    rw [join_cons part last, segmentsOf_append _ whole.1 closed.1, ih last whole.2 closed.2]

theorem IsSplit.unique {t : Text} {parts others : List Text} (split : IsSplit t parts)
    (some : parts ≠ []) (someOther : others ≠ []) (other : IsSplit t others) : parts = others :=
  (split.segments_eq some).symm.trans (other.segments_eq someOther)

theorem segments_ne_nil (t : Text) : t.segments ≠ [] :=
  segments_eq t ▸ segmentsOf_ne_nil t

end RequestLine.Text
