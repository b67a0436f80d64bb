set_option autoImplicit false

namespace RequestLine

variable {ε δ α β : Type}

@[simp] theorem ok_bind (a : α) (f : α → Except ε β) : Except.ok a >>= f = f a := rfl

@[simp] theorem error_bind (fault : ε) (f : α → Except ε β) :
    Except.error fault >>= f = .error fault := rfl

theorem bind_eq_ok {r : Except ε α} {f : α → Except ε β} {b : β} :
    r >>= f = .ok b ↔ ∃ a, r = .ok a ∧ f a = .ok b := by
  cases r with
  | error fault => exact ⟨fun h => by contradiction, fun ⟨_, h, _⟩ => by contradiction⟩
  | ok a => exact ⟨fun h => ⟨a, rfl, h⟩, fun ⟨_, same, h⟩ => by cases same; exact h⟩

theorem bind_eq_error {r : Except ε α} {f : α → Except ε β} {fault : ε} :
    r >>= f = .error fault ↔ r = .error fault ∨ ∃ a, r = .ok a ∧ f a = .error fault := by
  cases r <;> simp

theorem map_eq_ok {r : Except ε α} {f : α → β} {b : β} :
    r.map f = .ok b ↔ ∃ a, r = .ok a ∧ f a = b := by
  cases r <;> simp [Except.map]

theorem mapError_eq_ok {r : Except ε α} {f : ε → δ} {a : α} :
    r.mapError f = .ok a ↔ r = .ok a := by
  cases r with
  | error cause => exact ⟨fun h => by contradiction, fun h => by contradiction⟩
  | ok b => exact ⟨fun h => by cases h; rfl, fun h => by cases h; rfl⟩

theorem mapError_eq_error {r : Except ε α} {f : ε → δ} {fault : δ} :
    r.mapError f = .error fault ↔ ∃ cause, r = .error cause ∧ f cause = fault := by
  cases r with
  | error cause =>
    constructor
    · intro h
      cases h
      exact ⟨cause, rfl, rfl⟩
    · rintro ⟨other, same, rfl⟩
      cases same
      rfl
  | ok b => exact ⟨fun h => by contradiction, fun ⟨_, h, _⟩ => by contradiction⟩

theorem forM_eq_ok {f : α → Except ε Unit} {xs : List α} :
    xs.forM f = .ok () ↔ ∀ x ∈ xs, f x = .ok () := by
  induction xs with
  | nil => exact ⟨nofun, fun _ => rfl⟩
  | cons x xs ih =>
    rw [List.forall_mem_cons, ← ih]
    exact bind_eq_ok.trans ⟨fun ⟨_, first, later⟩ => ⟨first, later⟩, fun h => ⟨(), h⟩⟩

theorem mapM_eq_ok {f : α → Except ε β} {g : α → β} {good : α → Prop} {xs : List α}
    (each : ∀ x ∈ xs, ∀ y, f x = .ok y ↔ good x ∧ y = g x) (ys : List β) :
    xs.mapM f = .ok ys ↔ (∀ x ∈ xs, good x) ∧ ys = xs.map g := by
  induction xs generalizing ys with
  | nil =>
    rw [List.mapM_nil]
    simp [pure, Except.pure, eq_comm]
  | cons x xs ih =>
    rw [List.forall_mem_cons] at each
    rw [List.mapM_cons, bind_eq_ok, List.forall_mem_cons, List.map_cons]
    constructor
    · rintro ⟨y, first, h⟩
      obtain ⟨zs, later, h⟩ := bind_eq_ok.mp h
      cases h
      obtain ⟨goodFirst, rfl⟩ := (each.1 y).mp first
      obtain ⟨goodLater, rfl⟩ := (ih each.2 zs).mp later
      exact ⟨⟨goodFirst, goodLater⟩, rfl⟩
    · rintro ⟨⟨goodFirst, goodLater⟩, rfl⟩
      have first := (each.1 (g x)).mpr ⟨goodFirst, rfl⟩
      have later := (ih each.2 (xs.map g)).mpr ⟨goodLater, rfl⟩
      exact ⟨g x, first, bind_eq_ok.mpr ⟨xs.map g, later, rfl⟩⟩

end RequestLine
