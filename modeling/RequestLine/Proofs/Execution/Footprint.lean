import RequestLine.Proofs.Execution.Detour

set_option autoImplicit false

namespace RequestLine

variable {ω α β : Type}

structure Supply (ω : Type) where
  outcomes : Feed ω
  monotonic : Feed Double
  wall : Feed Double

def Supply.clocksRead (x : Supply ω) : Supply ω :=
  { x with monotonic := x.monotonic.next.2, wall := x.wall.next.2 }

def World.supply (w : World ω) : Supply ω := ⟨w.outcomes, w.monotonic, w.wall⟩

namespace World

theorem step_congr {w w' : World ω} (same : w.supply = w'.supply) (action : Action ω α) :
    w.step action = w'.step action := by
  obtain ⟨outcomes, monotonic, wall, calls, log⟩ := w
  cases same
  rfl

theorem steps_congr {w w' : World ω} (same : w.supply = w'.supply) (actions : List (Action ω α)) :
    w.steps actions = w'.steps actions := by
  cases actions with
  | nil => rfl
  | cons action actions => rw [steps, steps, step_congr same]

theorem steps_eraseIdx {actions : List (Action ω α)} {i : Nat} {action : Action ω α}
    (place : actions[i]? = some action) (still : action.Keeps supply) (w : World ω) :
    w.steps (actions.eraseIdx i) = (w.steps actions).eraseIdx i := by
  induction actions generalizing i w with
  | nil => contradiction
  | cons first actions ih =>
    cases i with
    | zero =>
      cases place
      have kept : (w.step action).2.supply = w.supply := still _
      exact steps_congr kept.symm actions
    | succ i =>
      rw [List.eraseIdx_cons_succ, steps, steps, List.eraseIdx_cons_succ,
        ih place (w.step first).2]

end World

namespace Transport

structure Scripted (t : Transport ω) : Prop where
  outcomes : ∀ call w, ((t call).run w).2.outcomes = w.outcomes ∨
    ((t call).run w).2.outcomes = w.outcomes.next.2
  monotonic : ∀ call w, ((t call).run w).2.monotonic = w.monotonic
  wall : ∀ call w, ((t call).run w).2.wall = w.wall

theorem scripted_direct : direct.Scripted := by
  constructor <;> intro call w <;> rw [run_direct]
  exact .inr rfl

theorem scripted_session [Runtime] (timeout : Timeout) : (session timeout).Scripted := by
  constructor <;> intro call w <;> rcases ready : prepared call with failure | sent
  case outcomes.error => exact .inl (by rw [run_session_error timeout ready])
  case outcomes.ok =>
    obtain ⟨entries, run⟩ := run_session_ok timeout ready w
    exact .inr (by rw [run])
  case monotonic.error | wall.error => rw [run_session_error timeout ready]
  case monotonic.ok | wall.ok =>
    obtain ⟨entries, run⟩ := run_session_ok timeout ready w
    rw [run]

end Transport

namespace Executor

structure Responds (t : Transport ω) (d : Descriptor) (w : World ω) : Prop where
  dated : ∃ start, Timing.stamp w.wall.next.1 = .ok start
  replied : ∃ reply left, t.Gives d.call reply (dispatched d w) left

/-- What an execution takes besides what its call takes. Both clocks are read before the call, and
again once there is a response. -/
structure Footprint (t : Transport ω) (d : Descriptor) (w after : World ω) : Prop where
  undated : ∀ failure, Timing.stamp w.wall.next.1 = .error failure →
    after.supply = w.supply.clocksRead ∧ after.calls = w.calls
  silent : ∀ start, Timing.stamp w.wall.next.1 = .ok start → ¬ Responds t d w →
    after.supply = ((t d.call).run (dispatched d w)).2.supply
  responded : Responds t d w →
    after.supply = ((t d.call).run (dispatched d w)).2.supply.clocksRead

theorem supply_answered (t : Transport ω) (d : Descriptor) (w : World ω) :
    ((answered t d).run w).2.supply = ((t d.call).run w).2.supply := by
  obtain ⟨entries, run⟩ := run_answered t d w
  rw [run]
  rfl

theorem still_log (severity : Log.Severity) (source : String) (message : Text) :
    (Action.log severity source message : Action ω Unit).Keeps World.supply := fun _ => rfl

theorem run_execute_error {t : Transport ω} {d : Descriptor} {w : World ω} {failure : Failure}
    (undated : Timing.stamp w.wall.next.1 = .error failure) :
    (execute t d).run w = (.error failure,
      { w with monotonic := w.monotonic.next.2, wall := w.wall.next.2 }) := by
  rw [execute, Action.run_clocks, Action.run_bind, Action.run_ofExcept, undated]

theorem run_execute_ok {t : Transport ω} {d : Descriptor} {w : World ω} {start : Int}
    (dated : Timing.stamp w.wall.next.1 = .ok start) :
    ∃ rest : Reply → Action ω Execution,
      (execute t d).run w = (answered t d >>= rest).run (dispatched d w) ∧
      ∀ reply left, ((rest reply).run left).2.supply = left.supply.clocksRead := by
  rw [execute, Action.run_clocks, Action.run_bind, Action.run_ofExcept, dated]
  dsimp only
  rw [Action.run_bind, Action.run_log]
  refine ⟨_, rfl, fun reply left => ?_⟩
  rw [Action.run_clocks]
  exact Action.Keeps.bind (.ofExcept _) (fun stopStamp => .bind (.ofExcept _) fun duration =>
    .bind (.ofExcept _) fun timing => .bind (still_log _ _ _) fun _ => .pure _) _

theorem footprint_execute (t : Transport ω) (d : Descriptor) (w : World ω) :
    Footprint t d w ((execute t d).run w).2 := by
  have called := supply_answered t d (dispatched d w)
  constructor
  case undated =>
    intro failure undated
    rw [run_execute_error undated]
    exact ⟨rfl, rfl⟩
  case silent =>
    intro start dated silent
    obtain ⟨rest, run, -⟩ := run_execute_ok (t := t) (d := d) dated
    rw [run, Action.run_bind]
    rcases settled : (answered t d).run (dispatched d w) with ⟨failure | reply, left⟩
    · rw [settled] at called
      exact called
    · exact absurd ⟨⟨start, dated⟩, reply, left, answered_eq_ok.mp settled⟩ silent
  case responded =>
    rintro ⟨⟨start, dated⟩, reply, left, gives⟩
    obtain ⟨rest, run, reads⟩ := run_execute_ok (t := t) (d := d) dated
    have settled := answered_eq_ok.mpr gives
    rw [settled] at called
    rw [run, Action.run_bind, settled, ← called]
    exact reads reply left

structure Takes (t : Transport ω) (d : Descriptor) (w after : World ω) : Prop where
  outcomes : after.outcomes = w.outcomes ∨ after.outcomes = w.outcomes.next.2
  twice : Responds t d w →
    after.monotonic = w.monotonic.next.2.next.2 ∧ after.wall = w.wall.next.2.next.2
  once : ¬ Responds t d w → after.monotonic = w.monotonic.next.2 ∧ after.wall = w.wall.next.2

theorem Footprint.takes {t : Transport ω} {d : Descriptor} {w after : World ω}
    (footprint : Footprint t d w after) (scripted : t.Scripted) : Takes t d w after := by
  have outcomes := scripted.outcomes d.call (dispatched d w)
  have monotonic := scripted.monotonic d.call (dispatched d w)
  have wall := scripted.wall d.call (dispatched d w)
  by_cases responds : Responds t d w
  · have left := footprint.responded responds
    simp only [World.supply, Supply.clocksRead, Supply.mk.injEq, monotonic, wall] at left
    exact ⟨left.1 ▸ outcomes, fun _ => left.2, fun silent => absurd responds silent⟩
  cases stamp : Timing.stamp w.wall.next.1 with
  | error failure =>
    have left := (footprint.undated failure stamp).1
    simp only [World.supply, Supply.clocksRead, Supply.mk.injEq] at left
    exact ⟨.inl left.1, fun h => absurd h responds, fun _ => left.2⟩
  | ok start =>
    have left := footprint.silent start stamp responds
    simp only [World.supply, Supply.mk.injEq, monotonic, wall] at left
    exact ⟨left.1 ▸ outcomes, fun h => absurd h responds, fun _ => left.2⟩

end Executor

end RequestLine
