import RequestLine.Proofs.Execution

set_option autoImplicit false

namespace RequestLine.Executor

variable {ω ω' : Type}

def settled : Except Failure Reply → Except Failure Reply
  | .error (.network _ (some reply)) => .ok reply
  | .error (.network message none) => .error (.unreachable message)
  | result => result

theorem run_answered (t : Transport ω) (d : Descriptor) (w : World ω) :
    ∃ entries, (answered t d).run w =
      (settled ((t d.call).run w).1,
        { ((t d.call).run w).2 with log := ((t d.call).run w).2.log ++ entries }) := by
  rw [answered, Action.run_tryCatch]
  rcases (t d.call).run w with ⟨failure | reply, left⟩
  · cases failure with
    | network message carried =>
      cases carried with
      | some reply => exact ⟨[], by simp [settled]⟩
      | none => exact ⟨_, rfl⟩
    | _ => exact ⟨[], by simp [settled]⟩
  · exact ⟨[], by simp [settled]⟩

def dispatched (d : Descriptor) (w : World ω) : World ω :=
  { w with
    monotonic := w.monotonic.next.2
    wall := w.wall.next.2
    log := w.log ++ [⟨.debug, source, "Executing " ++ d.method.name ++ " " ++ d.fullUrl⟩] }

def timed (before left : World ω) (start : Int) (reply : Reply) : Except Failure Execution := do
  let stop ← Timing.stamp left.wall.next.1
  let duration ← Timing.elapsed before.monotonic.next.1 left.monotonic.next.1
  let timing ← Failure.ofChecked (Timing.ofDuration duration start stop)
  return ⟨reply, timing⟩

theorem execute_result (t : Transport ω) (d : Descriptor) (w : World ω) :
    ((execute t d).run w).1 = Timing.stamp w.wall.next.1 >>= fun start =>
      settled ((t d.call).run (dispatched d w)).1 >>= fun reply =>
        timed w ((t d.call).run (dispatched d w)).2 start reply := by
  obtain ⟨entries, answer⟩ := run_answered t d (dispatched d w)
  have result : ((answered t d).run (dispatched d w)).1 =
      settled ((t d.call).run (dispatched d w)).1 := by rw [answer]
  have monotonic : ((answered t d).run (dispatched d w)).2.monotonic =
      ((t d.call).run (dispatched d w)).2.monotonic := by rw [answer]
  have wall : ((answered t d).run (dispatched d w)).2.wall =
      ((t d.call).run (dispatched d w)).2.wall := by rw [answer]
  simp only [execute, Action.result_bind, Action.run_readMonotonic, Action.run_readWall,
    Action.run_ofExcept, Action.run_log, Action.run_ofChecked, ok_bind]
  rw [← result]
  simp only [timed, ← monotonic, ← wall]
  rfl

structure Offstage {γ : Type} (view : World ω → γ) : Prop where
  monotonic : Action.readMonotonic.Keeps view
  wall : Action.readWall.Keeps view
  log : ∀ w entries, view { w with log := w.log ++ entries } = view w

theorem execute_view {γ : Type} {view : World ω → γ} (offstage : Offstage view) {t : Transport ω}
    (d : Descriptor) {w : World ω} {start : Int}
    (dated : Timing.stamp w.wall.next.1 = .ok start) :
    view ((execute t d).run w).2 = view ((t d.call).run (dispatched d w)).2 := by
  have logs (severity : Log.Severity) (source : String) (message : Text) :
      (Action.log severity source message).Keeps view := fun w => offstage.log w _
  obtain ⟨entries, answer⟩ := run_answered t d (dispatched d w)
  have called : view ((answered t d).run (dispatched d w)).2 =
      view ((t d.call).run (dispatched d w)).2 := by
    rw [answer]
    exact offstage.log _ entries
  rw [execute, Action.run_clocks, Action.run_bind, Action.run_ofExcept, dated]
  dsimp only
  rw [Action.run_bind, Action.run_log]
  dsimp only
  exact (Action.Keeps.behind view (fun reply =>
    .bind offstage.monotonic fun stop => .bind offstage.wall fun read =>
      .bind (.ofExcept _) fun stopStamp => .bind (.ofExcept _) fun duration =>
        .bind (.ofExcept _) fun timing => .bind (logs _ _ _) fun _ => .pure _) _ _).trans called

def OfClocks (failure : Failure) : Prop :=
  (∃ reason, failure = .reading reason) ∨
    failure = .invalid [⟨[Text.ofString "duration"], .tooSmall⟩]

theorem stamp_error {x : Double} {failure : Failure} (h : Timing.stamp x = .error failure) :
    OfClocks failure := by
  obtain ⟨reason, -, rfl⟩ := mapError_eq_error.mp h
  exact .inl ⟨reason, rfl⟩

theorem elapsed_error {x y : Double} {failure : Failure}
    (h : Timing.elapsed x y = .error failure) : OfClocks failure := by
  obtain ⟨reason, -, rfl⟩ := mapError_eq_error.mp h
  exact .inl ⟨reason, rfl⟩

theorem ofDuration_error {duration start stop : Int} {failure : Failure}
    (h : Failure.ofChecked (Timing.ofDuration duration start stop) = .error failure) :
    OfClocks failure := by
  unfold Timing.ofDuration at h
  by_cases negative : duration < 0
  · rw [if_pos negative] at h
    cases h
    exact .inr rfl
  · rw [if_neg negative] at h
    cases h

theorem timed_cases (before left : World ω) (start : Int) (reply : Reply) :
    (∃ timing, timed before left start reply = .ok ⟨reply, timing⟩) ∨
      ∃ failure, timed before left start reply = .error failure ∧ OfClocks failure := by
  unfold timed
  cases stamped : Timing.stamp left.wall.next.1 with
  | error failure => exact .inr ⟨failure, rfl, stamp_error stamped⟩
  | ok stop =>
    rw [ok_bind]
    cases measured : Timing.elapsed before.monotonic.next.1 left.monotonic.next.1 with
    | error failure => exact .inr ⟨failure, rfl, elapsed_error measured⟩
    | ok duration =>
      rw [ok_bind]
      cases checked : Failure.ofChecked (Timing.ofDuration duration start stop) with
      | error failure => exact .inr ⟨failure, rfl, ofDuration_error checked⟩
      | ok timing => exact .inl ⟨timing, rfl⟩

theorem timed_congr {before left : World ω} {before' left' : World ω'} {start : Int} {reply : Reply}
    (wall : left.wall = left'.wall) (first : before.monotonic = before'.monotonic)
    (last : left.monotonic = left'.monotonic) :
    timed before left start reply = timed before' left' start reply := by
  rw [timed, timed, wall, first, last]

end RequestLine.Executor
