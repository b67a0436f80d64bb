import Mathlib.Data.List.TakeWhile
import RequestLine.Text.Split

set_option autoImplicit false

namespace RequestLine.Text

theorem cut?_cons (s head : Symbol) (t : Text) :
    cut? s (head :: t) =
      if head = s then some ([], t) else (cut? s t).map fun c => (head :: c.1, c.2) := by
  by_cases same : head = s
  · simp [cut?, same]
  · cases h : t.dropWhile (· != s) <;> simp [cut?, same, h]

theorem cut?_eq_some {s : Symbol} {t before after : Text} :
    cut? s t = some (before, after) ↔ t = before ++ s :: after ∧ s ∉ before := by
  induction t generalizing before with
  | nil => simp [cut?]
  | cons head t ih =>
    rw [cut?_cons]
    by_cases same : head = s
    · cases before with
      | nil => simp [same]
      | cons first before =>
        simp only [same, if_true, Option.some.injEq, Prod.mk.injEq, List.cons_append,
          List.cons.injEq, List.mem_cons]
        constructor
        · simp
        · rintro ⟨⟨rfl, -⟩, absent⟩
          simp at absent
    · cases before with
      | nil => simp [same]
      | cons first before =>
        simp only [same, if_false, Option.map_eq_some_iff, Prod.mk.injEq, List.cons.injEq,
          Prod.exists, List.cons_append, List.mem_cons, not_or]
        constructor
        · rintro ⟨before, after, found, ⟨rfl, rfl⟩, rfl⟩
          exact ⟨⟨rfl, (ih.mp found).1⟩, Ne.symm same, (ih.mp found).2⟩
        · rintro ⟨⟨rfl, rest⟩, -, absent⟩
          exact ⟨before, after, ih.mpr ⟨rest, absent⟩, ⟨rfl, rfl⟩, rfl⟩

theorem cut?_eq_none {s : Symbol} {t : Text} : cut? s t = none ↔ s ∉ t := by
  have absent : t.dropWhile (· != s) = [] ↔ s ∉ t := by
    rw [List.dropWhile_eq_nil_iff]
    exact ⟨fun other member => by simpa using other s member,
      fun absent x member => bne_iff_ne.mpr fun same => absent (same ▸ member)⟩
  rw [← absent, cut?]
  cases t.dropWhile (· != s) <;> simp

theorem dropWhile_eq_self {p : Symbol → Bool} {t : Text}
    (front : ∀ s, t.head? = some s → p s = false) : t.dropWhile p = t := by
  cases t with
  | nil => rfl
  | cons s t => simp [front s rfl]

theorem trimBoth_eq_self {p : Symbol → Bool} {t : Text}
    (front : ∀ s, t.head? = some s → p s = false)
    (back : ∀ s, t.getLast? = some s → p s = false) : t.trimBoth p = t := by
  have reversed : t.reverse.dropWhile p = t.reverse :=
    dropWhile_eq_self (fun s h => back s (by rwa [List.head?_reverse] at h))
  rw [trimBoth, dropWhile_eq_self front, reversed, List.reverse_reverse]

theorem exists_strip (t : Text) :
    ∃ before after, t = before ++ (t.strip ++ after) ∧
      (∀ s ∈ before, s.isBlank = true) ∧ ∀ s ∈ after, s.isBlank = true := by
  have front := List.takeWhile_append_dropWhile (p := Symbol.isBlank) (l := t)
  have back := List.takeWhile_append_dropWhile (p := Symbol.isBlank)
    (l := (t.dropWhile Symbol.isBlank).reverse)
  refine ⟨t.takeWhile Symbol.isBlank,
    ((t.dropWhile Symbol.isBlank).reverse.takeWhile Symbol.isBlank).reverse, ?_,
    fun s member => List.mem_takeWhile_imp member,
    fun s member => List.mem_takeWhile_imp (List.mem_reverse.mp member)⟩
  rw [strip, trimBoth, ← List.reverse_append, back, List.reverse_reverse, front]

theorem strip_eq_self {t : Text} (front : ∀ s, t.head? = some s → s.isBlank = false)
    (back : ∀ s, t.getLast? = some s → s.isBlank = false) : t.strip = t :=
  trimBoth_eq_self front back

end RequestLine.Text
