import RequestLine.Proofs.Service.Authors
import RequestLine.Server

set_option autoImplicit false

namespace RequestLine.Server

def Run.sessionLog (r : Run) : List Log.Entry := r.log.filter (·.source == Session.source)

def Run.closed (r : Run) : Run :=
  { r with
    session := (Session.step r.session .close).1
    log := r.log ++ [note "Shutting down..."] ++ (Session.step r.session .close).2 }

@[simp] theorem Run.session_endedBy (r : Run) (cause : Cause) :
    (r.endedBy cause).session = r.session := by
  cases cause <;> rfl

@[simp] theorem Run.log_endedBy (r : Run) (cause : Cause) : (r.endedBy cause).log = r.log := by
  cases cause <;> rfl

namespace Life

variable {α : Type}

theorem run_endBy (cause : Cause) (r : Run) :
    ∃ events, (endBy cause : Life α).run r = (.error cause, { r with events }) := by
  cases cause with
  | interrupt => exact ⟨r.events ++ [.interrupted], rfl⟩
  | socket message => exact ⟨r.events, rfl⟩
  | raised s => exact ⟨r.events, rfl⟩

theorem run_closing (stretch : Life α) (r : Run) :
    (closing stretch).run r = ((stretch.run r).1, (stretch.run r).2.closed) := by
  simp only [closing, tryFinally, tryFinally', ExceptT.run, ExceptT.mk, bind, StateT.bind,
    Functor.map, ExceptT.map]
  generalize stretch r = out
  rcases out with ⟨cause | a, after⟩ <;> rfl

theorem run_bind_ok {β : Type} {x : Life α} {f : α → Life β} {r after : Run} {a : α}
    (ran : x.run r = (.ok a, after)) : (x >>= f).run r = (f a).run after := by
  change (ExceptT.bindCont f (x.run r).1 : StateM Run _) (x.run r).2 = _
  rw [ran]
  rfl

end Life

section

variable [Runtime] (s : Settings)

theorem serve_listening (cause : Cause) :
    (serve s (.listening cause)).session = some ⟨timeout s, true⟩ ∧
      (serve s (.listening cause)).log = [Session.opened (timeout s)] := by
  cases cause <;> exact ⟨rfl, rfl⟩

def waitingLog (traffic : Traffic) : List Log.Entry :=
  [Session.opened (timeout s), started s] ++
    ((application s).serve traffic.world traffic.requests).flatMap (·.log)

theorem serve_waiting (traffic : Traffic) (cause : Cause) :
    (serve s (.waiting traffic cause)).session = some ⟨timeout s, false⟩ ∧
      (serve s (.waiting traffic cause)).log =
        waitingLog s traffic ++ [note "Shutting down...", Session.closed] := by
  let waiting : Run :=
    { events := [.listening s.host s.port (timeout s)]
      log := [Session.opened (timeout s), started s]
      session := some ⟨timeout s, true⟩ }
  let answered : Run :=
    { waiting with
      answers := (application s).serve traffic.world traffic.requests
      log := waitingLog s traffic }
  obtain ⟨events, ended⟩ := Life.run_endBy (α := Unit) cause answered
  have stretch : (Life.answer s traffic >>= fun _ => Life.endBy cause).run waiting =
      (.error cause, { answered with events }) := (Life.run_bind_ok rfl).trans ended
  have whole : (Life.whole s (.waiting traffic cause)).run {} =
      (.error cause, { answered with events }.closed) := by
    refine (Life.run_bind_ok rfl).trans ((Life.run_bind_ok rfl).trans
      ((Life.run_bind_ok rfl).trans ?_))
    refine (Life.run_closing _ waiting).trans ?_
    rw [stretch]
  rw [serve, whole]
  dsimp only
  rw [Run.session_endedBy, Run.log_endedBy]
  refine ⟨rfl, ?_⟩
  exact List.append_assoc _ _ _

theorem sessionLog_answers (traffic : Traffic) :
    (((application s).serve traffic.world traffic.requests).flatMap (·.log)).filter
      (·.source == Session.source) = [] := by
  have elsewhere : ∀ x ∈ traffic.requests.map (application s).answer,
      x.Writes (· ≠ Session.source) := by
    intro x h
    obtain ⟨r, -, rfl⟩ := List.mem_map.mp h
    refine Service.writes_answer (by decide) (by decide) (fun t call installed => ?_) r
    cases installed
    exact Transport.writes_session (by decide) (timeout s) call
  rw [List.filter_eq_nil_iff]
  intro e h
  obtain ⟨step, taken, written⟩ := List.mem_flatMap.mp h
  simpa using World.steps_authors elsewhere taken e written

end

def Ending.Waits (ending : Ending) : Prop := ∃ traffic cause, ending = .waiting traffic cause

structure ClosedOnce (s : Settings) (r : Run) : Prop where
  session : r.session = some ⟨timeout s, false⟩
  log : r.sessionLog = [Session.opened (timeout s), Session.closed]

structure LeftOpen (s : Settings) (r : Run) : Prop where
  session : r.session = some ⟨timeout s, true⟩
  log : r.sessionLog = [Session.opened (timeout s)]

theorem LeftOpen.not_closedOnce {s : Settings} {r : Run} (left : LeftOpen s r) :
    ¬ ClosedOnce s r := by
  intro once
  cases left.session.symm.trans once.session

theorem leftOpen_listening [Runtime] (s : Settings) (cause : Cause) :
    LeftOpen s (serve s (.listening cause)) := by
  obtain ⟨session, log⟩ := serve_listening s cause
  refine ⟨session, ?_⟩
  rw [Run.sessionLog, log]
  rfl

theorem closedOnce_waiting [Runtime] (s : Settings) (traffic : Traffic) (cause : Cause) :
    ClosedOnce s (serve s (.waiting traffic cause)) := by
  obtain ⟨session, log⟩ := serve_waiting s traffic cause
  refine ⟨session, ?_⟩
  rw [Run.sessionLog, log, waitingLog, List.filter_append, List.filter_append,
    sessionLog_answers s traffic]
  rfl

/-- Whatever is answered and whatever ends the run, its one session is closed once if the server has
come to wait, and never if it has not. -/
theorem session_closed_iff_waits [Runtime] (s : Settings) (ending : Ending) :
    (ClosedOnce s (serve s ending) ↔ ending.Waits) ∧
      (LeftOpen s (serve s ending) ↔ ¬ ending.Waits) := by
  cases ending with
  | listening cause =>
    have left := leftOpen_listening s cause
    have early : ¬ (Ending.listening cause).Waits := by
      rintro ⟨traffic, cause, same⟩
      cases same
    exact ⟨⟨fun once => absurd once left.not_closedOnce, fun waits => absurd waits early⟩,
      ⟨fun _ => early, fun _ => left⟩⟩
  | waiting traffic cause =>
    have once := closedOnce_waiting s traffic cause
    have waits : (Ending.waiting traffic cause).Waits := ⟨traffic, cause, rfl⟩
    exact ⟨⟨fun _ => waits, fun _ => once⟩,
      ⟨fun left => absurd once left.not_closedOnce, fun early => absurd waits early⟩⟩

theorem taken_address_leaves_session_open :
    ¬ ∀ (s : Settings) (ending : Ending), ClosedOnce s (serve s ending) := by
  intro closed
  have left := leftOpen_listening .standard (.socket "address already in use")
  exact left.not_closedOnce (closed .standard (.socket "address already in use"))

end RequestLine.Server
