import RequestLine.Execution
import RequestLine.Proofs.Action

set_option autoImplicit false

namespace RequestLine

variable {ω : Type}

def Outcome.result : Outcome → Except Failure Reply
  | .reply status data => Failure.ofChecked (Reply.ofStatus status data)
  | .network message none => .error (.network message none)
  | .network message (some (status, data)) =>
    Failure.ofChecked (Reply.ofStatus status data) >>= fun reply =>
      .error (.network message (some reply))
  | .raised s => .error (.signal s)

theorem Reply.ofChecked_ofStatus (status : Int) (data : Json) :
    (∃ reply : Reply, Failure.ofChecked (Reply.ofStatus status data) = .ok reply ∧
      reply.status = status ∧ reply.data = data) ∨
    ∃ issues, Failure.ofChecked (Reply.ofStatus status data) = .error (.invalid issues) := by
  unfold Reply.ofStatus
  split
  next inRange => exact .inl ⟨⟨status, data, inRange⟩, rfl, rfl, rfl⟩
  next => exact .inr ⟨_, rfl⟩

theorem Reply.ofStatus_inRange {status : Int} (low : 100 ≤ status) (high : status ≤ 999)
    (data : Json) :
    Failure.ofChecked (Reply.ofStatus status data) = .ok ⟨status, data, low, high⟩ := by
  rw [Reply.ofStatus, dif_pos ⟨low, high⟩]
  rfl

theorem Reply.ofStatus_small {status : Int} (small : status < 100) (data : Json) :
    Failure.ofChecked (Reply.ofStatus status data) =
      .error (.invalid [⟨[Text.ofString "status"], .tooSmall⟩]) := by
  rw [Reply.ofStatus, dif_neg (by omega), if_pos small]
  rfl

theorem Reply.ofStatus_large {status : Int} (large : 999 < status) (data : Json) :
    Failure.ofChecked (Reply.ofStatus status data) =
      .error (.invalid [⟨[Text.ofString "status"], .tooLarge⟩]) := by
  rw [Reply.ofStatus, dif_neg (by omega), if_neg (by omega)]
  rfl

namespace Transport

def noted (t : Transport ω) : Transport ω := fun call =>
  ExceptT.mk fun w =>
    (((t call).run w).1, { ((t call).run w).2 with calls := w.calls ++ [call] })

theorem run_noted (t : Transport ω) (call : Call) (w : World ω) :
    (t.noted call).run w =
      (((t call).run w).1, { ((t call).run w).2 with calls := w.calls ++ [call] }) := rfl

/-- The call comes to this reply: it is handed back, or it stands in a network failure. -/
def Gives (t : Transport ω) (call : Call) (reply : Reply) (before left : World ω) : Prop :=
  (t call).run before = (.ok reply, left) ∨
    ∃ message, (t call).run before = (.error (.network message (some reply)), left)

theorem gives_noted {t : Transport ω} {call : Call} {reply : Reply} {before after : World ω} :
    t.noted.Gives call reply before after ↔ ∃ left, t.Gives call reply before left ∧
      after = { left with calls := before.calls ++ [call] } := by
  unfold Gives
  rw [run_noted]
  rcases (t call).run before with ⟨result, left⟩
  constructor
  · rintro (h | ⟨message, h⟩)
    · cases h
      exact ⟨left, .inl rfl, rfl⟩
    · cases h
      exact ⟨left, .inr ⟨message, rfl⟩, rfl⟩
  · rintro ⟨other, h | ⟨message, h⟩, rfl⟩
    · cases h
      exact .inl rfl
    · cases h
      exact .inr ⟨message, rfl⟩

theorem run_direct (call : Call) (w : World Outcome) :
    (direct call).run w = (w.outcomes.next.1.result,
      { w with outcomes := w.outcomes.next.2, calls := w.calls ++ [call] }) := by
  simp only [direct, Action.run_bind, Action.run_recordCall, Action.run_nextOutcome]
  generalize w.outcomes.next.1 = outcome
  rcases outcome with ⟨status, data⟩ | ⟨message, _ | ⟨status, data⟩⟩ | signal
  · exact Action.run_ofChecked _ _
  · rfl
  · simp only [Action.run_bind, Action.run_ofChecked, Outcome.result]
    cases Failure.ofChecked (Reply.ofStatus status data) <;> rfl
  · rfl

theorem noted_direct : direct.noted = direct := by
  funext call
  apply ExceptT.ext
  funext w
  rw [run_noted, run_direct]

theorem next_of_gives_direct {call : Call} {reply : Reply} {before left : World Outcome}
    (h : direct.Gives call reply before left) :
    before.outcomes.next.1 = .reply reply.status reply.data ∨
      ∃ message, before.outcomes.next.1 = .network message (some (reply.status, reply.data)) := by
  rw [Gives, run_direct] at h
  generalize before.outcomes.next.1 = outcome at h ⊢
  have result : outcome.result = .ok reply ∨
      ∃ message, outcome.result = .error (.network message (some reply)) := by
    rcases h with h | ⟨message, h⟩
    · exact .inl (congrArg Prod.fst h)
    · exact .inr ⟨message, congrArg Prod.fst h⟩
  rcases outcome with ⟨status, data⟩ | ⟨message, _ | ⟨status, data⟩⟩ | signal
  · rcases Reply.ofChecked_ofStatus status data with ⟨given, same, rfl, rfl⟩ | ⟨issues, same⟩
    · rw [Outcome.result, same] at result
      rcases result with result | ⟨_, result⟩
      · cases result
        exact .inl rfl
      · cases result
    · rw [Outcome.result, same] at result
      rcases result with result | ⟨_, result⟩ <;> cases result
  · rcases result with result | ⟨_, result⟩ <;> cases result
  · rcases Reply.ofChecked_ofStatus status data with ⟨given, same, rfl, rfl⟩ | ⟨issues, same⟩
    · rw [Outcome.result, same] at result
      rcases result with result | ⟨_, result⟩
      · cases result
      · cases result
        exact .inr ⟨message, rfl⟩
    · rw [Outcome.result, same] at result
      rcases result with result | ⟨_, result⟩ <;> cases result
  · rcases result with result | ⟨_, result⟩ <;> cases result

end Transport

structure Timing.Read (timing : Timing) (first last : World ω) : Prop where
  start : Timing.stamp first.wall.next.1 = .ok timing.start
  stop : Timing.stamp last.wall.next.1 = .ok timing.stop
  duration : Timing.elapsed first.monotonic.next.1 last.monotonic.next.1 = .ok timing.duration

theorem Timing.ofDuration_eq_ok {duration start stop : Int} {timing : Timing} :
    Timing.ofDuration duration start stop = .ok timing ↔
      duration = timing.duration ∧ start = timing.start ∧ stop = timing.stop := by
  obtain ⟨n, a, b⟩ := timing
  unfold Timing.ofDuration
  by_cases negative : duration < 0
  · rw [if_pos negative]
    constructor
    · intro h
      contradiction
    · rintro ⟨rfl, -, -⟩
      omega
  · rw [if_neg negative]
    constructor
    · intro h
      cases h
      exact ⟨(Int.toNat_of_nonneg (Int.not_lt.mp negative)).symm, rfl, rfl⟩
    · rintro ⟨rfl, rfl, rfl⟩
      rfl

namespace Executor

theorem run_of_parse [Runtime] (t : Transport ω) {v : Json} {d : Descriptor}
    (parsed : Line.parse v = .ok d) (w : World ω) : (run t v).run w = (execute t d).run w := by
  rw [run, parsed]
  rfl

theorem run_of_parse_error [Runtime] (t : Transport ω) {v : Json} {failure : Failure}
    (refused : Line.parse v = .error failure) (w : World ω) :
    (run t v).run w = (.error failure, w) := by
  rw [run, refused]
  rfl

variable {transport : Transport ω} {d : Descriptor} {w after : World ω}

theorem answered_eq_ok {reply : Reply} :
    (answered transport d).run w = (.ok reply, after) ↔
      transport.Gives d.call reply w after := by
  rw [answered, Action.run_tryCatch, Transport.Gives]
  rcases (transport d.call).run w with ⟨failure | given, left⟩
  · constructor
    · intro h
      -- Only a network failure that holds a reply is made up for.
      cases failure with
      | network message carried =>
        cases carried with
        | none => cases h
        | some reply =>
          cases h
          exact .inr ⟨message, rfl⟩
      | _ => cases h
    · rintro (h | ⟨message, h⟩)
      · cases h
      · cases h
        rfl
  · constructor
    · intro h
      exact .inl h
    · rintro (h | ⟨message, h⟩)
      · exact h
      · cases h

theorem execute_eq_ok {e : Execution} (h : (execute transport d).run w = (.ok e, after)) :
    ∃ before left, before.calls = w.calls ∧ before.outcomes = w.outcomes ∧
      transport.Gives d.call e.reply before left ∧ e.timing.Read w left ∧
      after.calls = left.calls := by
  obtain ⟨first, w₁, read, h⟩ := Action.run_bind_eq_ok.mp h
  cases read
  obtain ⟨firstWall, w₂, read, h⟩ := Action.run_bind_eq_ok.mp h
  cases read
  obtain ⟨start, w₃, stamped, h⟩ := Action.run_bind_eq_ok.mp h
  obtain ⟨started, rfl⟩ := Action.run_ofExcept_eq_ok.mp stamped
  obtain ⟨_, before, logged, h⟩ := Action.run_bind_eq_ok.mp h
  have kept : before.calls = w.calls ∧ before.outcomes = w.outcomes := by
    cases logged
    exact ⟨rfl, rfl⟩
  -- From here on there is a reply, and nothing but the clocks is read.
  obtain ⟨reply, left, answered, h⟩ := Action.run_bind_eq_ok.mp h
  obtain ⟨last, w₄, read, h⟩ := Action.run_bind_eq_ok.mp h
  cases read
  obtain ⟨lastWall, w₅, read, h⟩ := Action.run_bind_eq_ok.mp h
  cases read
  obtain ⟨stop, w₆, stamped, h⟩ := Action.run_bind_eq_ok.mp h
  obtain ⟨stopped, rfl⟩ := Action.run_ofExcept_eq_ok.mp stamped
  obtain ⟨duration, w₇, measured, h⟩ := Action.run_bind_eq_ok.mp h
  obtain ⟨took, rfl⟩ := Action.run_ofExcept_eq_ok.mp measured
  obtain ⟨timing, w₈, checked, h⟩ := Action.run_bind_eq_ok.mp h
  obtain ⟨sound, rfl⟩ := Action.run_ofChecked_eq_ok.mp checked
  cases h
  obtain ⟨rfl, rfl, rfl⟩ := Timing.ofDuration_eq_ok.mp sound
  exact ⟨before, left, kept.1, kept.2, answered_eq_ok.mp answered, ⟨started, stopped, took⟩, rfl⟩

end Executor

end RequestLine
