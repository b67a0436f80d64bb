import RequestLine.Proofs.Result
import RequestLine.World

set_option autoImplicit false

namespace RequestLine.Action

variable {ω α β : Type}

@[simp] theorem run_pure (a : α) (w : World ω) : (pure a : Action ω α).run w = (.ok a, w) := rfl

@[simp] theorem run_throw (failure : Failure) (w : World ω) :
    (throw failure : Action ω α).run w = (.error failure, w) := rfl

theorem run_bind (x : Action ω α) (f : α → Action ω β) (w : World ω) :
    (x >>= f).run w =
      match x.run w with
      | (.ok a, after) => (f a).run after
      | (.error failure, after) => (.error failure, after) := by
  change (ExceptT.bindCont f (x.run w).1 : StateM (World ω) _) (x.run w).2 = _
  rcases x.run w with ⟨failure | a, after⟩ <;> rfl

theorem result_bind (x : Action ω α) (f : α → Action ω β) (w : World ω) :
    ((x >>= f).run w).1 = (x.run w).1 >>= fun a => ((f a).run (x.run w).2).1 := by
  rw [run_bind]
  rcases x.run w with ⟨failure | a, after⟩ <;> rfl

theorem run_bind_eq_ok {x : Action ω α} {f : α → Action ω β} {w after : World ω} {b : β} :
    (x >>= f).run w = (.ok b, after) ↔
      ∃ a mid, x.run w = (.ok a, mid) ∧ (f a).run mid = (.ok b, after) := by
  rw [run_bind]
  rcases x.run w with ⟨failure | a, mid⟩
  · constructor
    · intro h
      cases h
    · rintro ⟨a, other, same, -⟩
      cases same
  · constructor
    · intro h
      exact ⟨a, mid, rfl, h⟩
    · rintro ⟨a, other, same, h⟩
      cases same
      exact h

theorem run_map (f : α → β) (x : Action ω α) (w : World ω) :
    (f <$> x).run w = ((x.run w).1.map f, (x.run w).2) := by
  rw [map_eq_pure_bind, run_bind]
  rcases x.run w with ⟨failure | a, after⟩ <;> rfl

@[simp] theorem run_ofExcept (r : Except Failure α) (w : World ω) :
    (ofExcept r : Action ω α).run w = (r, w) := by
  cases r <;> rfl

theorem run_ofExcept_eq_ok {r : Except Failure α} {a : α} {w after : World ω} :
    (ofExcept r : Action ω α).run w = (.ok a, after) ↔ r = .ok a ∧ after = w := by
  rw [run_ofExcept]
  constructor
  · intro h
    cases h
    exact ⟨rfl, rfl⟩
  · rintro ⟨rfl, rfl⟩
    rfl

@[simp] theorem run_ofChecked (c : Checked α) (w : World ω) :
    (ofChecked c : Action ω α).run w = (Failure.ofChecked c, w) := run_ofExcept _ w

theorem run_ofChecked_eq_ok {c : Checked α} {a : α} {w after : World ω} :
    (ofChecked c : Action ω α).run w = (.ok a, after) ↔ c = .ok a ∧ after = w := by
  have same : Failure.ofChecked c = .ok a ↔ c = .ok a := by
    rcases c with issues | b
    · exact ⟨nofun, nofun⟩
    · exact ⟨fun h => by cases h; rfl, fun h => by cases h; rfl⟩
  rw [ofChecked, run_ofExcept_eq_ok, same]

@[simp] theorem run_log (severity : Log.Severity) (source : String) (message : Text)
    (w : World ω) :
    (log severity source message).run w =
      (.ok (), { w with log := w.log ++ [⟨severity, source, message⟩] }) := rfl

@[simp] theorem run_recordCall (call : Call) (w : World ω) :
    (recordCall call).run w = (.ok (), { w with calls := w.calls ++ [call] }) := rfl

@[simp] theorem run_nextOutcome (w : World ω) :
    nextOutcome.run w = (.ok w.outcomes.next.1, { w with outcomes := w.outcomes.next.2 }) := rfl

@[simp] theorem run_readMonotonic (w : World ω) :
    readMonotonic.run w = (.ok w.monotonic.next.1, { w with monotonic := w.monotonic.next.2 }) :=
  rfl

@[simp] theorem run_readWall (w : World ω) :
    readWall.run w = (.ok w.wall.next.1, { w with wall := w.wall.next.2 }) := rfl

theorem run_clocks (f : Double → Double → Action ω α) (w : World ω) :
    (readMonotonic >>= fun monotonic => readWall >>= f monotonic).run w =
      (f w.monotonic.next.1 w.wall.next.1).run
        { w with monotonic := w.monotonic.next.2, wall := w.wall.next.2 } := by
  rw [run_bind, run_readMonotonic]
  dsimp only
  rw [run_bind, run_readWall]

@[simp] theorem run_attempt (x : Action ω α) (w : World ω) :
    x.attempt.run w = (.ok (x.run w).1, (x.run w).2) := rfl

theorem run_tryCatch (x : Action ω α) (handler : Failure → Action ω α) (w : World ω) :
    (tryCatch x handler).run w =
      match x.run w with
      | (.ok a, after) => (.ok a, after)
      | (.error failure, after) => (handler failure).run after := by
  rw [ExceptT.run_tryCatch]
  rcases h : x.run w with ⟨failure | a, after⟩
  · simp only [bind, StateT.bind, h]
  · simp only [bind, StateT.bind, h]
    rfl

def Keeps {γ : Type} (view : World ω → γ) (x : Action ω α) : Prop :=
  ∀ w, view (x.run w).2 = view w

namespace Keeps

variable {γ : Type} {view : World ω → γ}

theorem pure (a : α) : Keeps view (Pure.pure a : Action ω α) := fun _ => rfl

theorem ofExcept (r : Except Failure α) : Keeps view (Action.ofExcept r : Action ω α) :=
  fun w => by rw [run_ofExcept]

theorem behind (view : World ω → γ) {f : α → Action ω β} (later : ∀ a, Keeps view (f a))
    (x : Action ω α) (w : World ω) : view ((x >>= f).run w).2 = view (x.run w).2 := by
  rw [run_bind]
  rcases x.run w with ⟨failure | a, mid⟩
  · rfl
  · exact later a mid

theorem bind {x : Action ω α} {f : α → Action ω β} (first : Keeps view x)
    (later : ∀ a, Keeps view (f a)) : Keeps view (x >>= f) :=
  fun w => (behind view later x w).trans (first w)

end Keeps

end RequestLine.Action

namespace RequestLine.World

variable {ω α : Type}

theorem exists_step {actions : List (Action ω α)} {w : World ω} {i : Nat} {step : Step α}
    (there : (w.steps actions)[i]? = some step) :
    ∃ x v, actions[i]? = some x ∧ step = (World.step v x).1 := by
  induction actions generalizing w i with
  | nil => cases there
  | cons first rest ih =>
    cases i with
    | zero =>
      cases there
      exact ⟨first, w, rfl, rfl⟩
    | succ i => exact ih there

end RequestLine.World
