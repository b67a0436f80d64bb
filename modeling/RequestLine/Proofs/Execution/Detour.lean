import RequestLine.Proofs.Body
import RequestLine.Proofs.Execution.Settled
import RequestLine.Proofs.Timing

set_option autoImplicit false

namespace RequestLine

namespace Executor

theorem settled_direct (status : Int) (data : Json) :
    settled (Outcome.reply status data).result =
      Failure.ofChecked (Reply.ofStatus status data) := by
  rw [Outcome.result]
  rcases Reply.ofChecked_ofStatus status data with ⟨reply, same, -, -⟩ | ⟨issues, same⟩ <;>
    rw [same] <;> rfl

theorem execute_direct (d : Descriptor) (w : World Outcome) :
    ((execute Transport.direct d).run w).1 =
      Timing.stamp w.wall.next.1 >>= fun start =>
        settled w.outcomes.next.1.result >>= timed w (dispatched d w) start := by
  rw [execute_result, Transport.run_direct]
  rfl

structure Unreached (result : Except Failure Execution) (reason : Text) : Prop where
  failed : result = .error (.unreachable reason)
  told : (Failure.unreachable reason).report? = some ("Request failed: " ++ reason)

structure Translated (timeout : Timeout) (s : Signal) (result : Except Failure Execution) :
    Prop where
  timedOut : s.kind.isTimeout → Unreached result ("timeout of " ++ timeout.text ++ "s exceeded")
  broken : ¬ s.kind.isTimeout → s.kind.isConnection → s.text ≠ [] → Unreached result s.text
  brokenSilently : ¬ s.kind.isTimeout → s.kind.isConnection → s.text = [] →
    Unreached result (Text.ofString s.kind.name)
  unsendable : ¬ s.kind.isTimeout → ¬ s.kind.isConnection → s.kind.isValue →
    Unreached result s.text
  only : (∃ reason, Unreached result reason) ↔
    s.kind.isTimeout ∨ s.kind.isConnection ∨ s.kind.isValue
  foreign : ¬ (s.kind.isTimeout ∨ s.kind.isConnection ∨ s.kind.isValue) →
    result = .error (.signal s)

theorem unreached_iff {result : Except Failure Execution} {reason : Text} :
    Unreached result reason ↔ result = .error (.unreachable reason) :=
  ⟨Unreached.failed, fun h => ⟨h, rfl⟩⟩

theorem translated_refusal (timeout : Timeout) (s : Signal)
    (after : Reply → Except Failure Execution) :
    Translated timeout s (settled (.error (s.refusal timeout)) >>= after) := by
  -- The three flags are looked at in the order in which the failure is caught.
  unfold Signal.refusal
  by_cases timedOut : s.kind.isTimeout
  · rw [if_pos timedOut]
    constructor <;> simp [timedOut, settled, unreached_iff]
  rw [if_neg timedOut]
  by_cases broken : s.kind.isConnection
  · rw [if_pos broken]
    constructor <;> simp +contextual [timedOut, broken, settled, unreached_iff]
  rw [if_neg broken]
  by_cases unsendable : s.kind.isValue
  · rw [if_pos unsendable]
    constructor <;> simp [timedOut, broken, unsendable, settled, unreached_iff]
  · rw [if_neg unsendable]
    constructor <;> simp [timedOut, broken, unsendable, settled, unreached_iff]

end Executor

def Exchange.result [Runtime] (timeout : Timeout) : Exchange → Except Failure Reply
  | .failedSending s | .failedReading s => .error (s.refusal timeout)
  | .reply status text =>
    Body.decode text >>= fun data =>
      Failure.ofChecked (Reply.ofStatus status data) >>= fun reply =>
        if reply.isError then
          .error (.network ("Request failed with status code " ++ Text.ofInt reply.status)
            (some reply))
        else .ok reply

namespace Transport

variable [Runtime]

theorem prepared_eq_ok {call : Call} {sent : Option (List (Text × Text))}
    (ready : Header.tryPrepare call.headers = .ok sent) :
    prepared call =
      .ok { call with headers := sent.map fun hs => hs.map fun h => (h.1, .str h.2) } := by
  rw [prepared, ready]
  rfl

theorem prepared_eq_error {call : Call} {failure : Failure} :
    prepared call = .error failure ↔
      ∃ fault, Header.tryPrepare call.headers = .error fault ∧ failure = .unsendable fault := by
  rw [prepared]
  cases Header.tryPrepare call.headers <;> simp [Except.mapError, pure, Except.pure, eq_comm]

theorem run_accept (timeout : Timeout) (call : Call) (status : Int) (text : Text)
    (w : World Exchange) :
    ∃ entries, (accept call status text).run w =
      ((Exchange.reply status text).result timeout, { w with log := w.log ++ entries }) := by
  rw [accept, Exchange.result, Action.run_bind, Action.run_ofExcept]
  cases decoded : Body.decode text with
  | error failure => exact ⟨[], by simp⟩
  | ok data =>
    simp only [ok_bind, Action.run_bind, Action.run_ofChecked, Action.run_log]
    cases checked : Failure.ofChecked (Reply.ofStatus status data) with
    | error failure => exact ⟨[], by simp⟩
    | ok reply =>
      refine ⟨[⟨.debug, sessionSource,
        "Received " ++ Text.ofInt reply.status ++ " from " ++ call.url⟩], ?_⟩
      by_cases refused : reply.isError
      · simp only [refused, if_true, ok_bind, Action.run_throw]
      · simp only [refused, ok_bind]
        rfl

theorem run_session_error (timeout : Timeout) {call : Call} {failure : Failure}
    (unready : prepared call = .error failure) (w : World Exchange) :
    (session timeout call).run w = (.error failure, w) := by
  rw [session, Action.run_bind, Action.run_ofExcept, unready]

theorem run_session_ok (timeout : Timeout) {call sent : Call} (ready : prepared call = .ok sent)
    (w : World Exchange) :
    ∃ entries, (session timeout call).run w = (w.outcomes.next.1.result timeout,
      { w with
        outcomes := w.outcomes.next.2
        calls := w.calls ++ [sent]
        log := w.log ++ entries }) := by
  simp only [session, Action.run_bind, Action.run_ofExcept, ready, Action.run_log,
    Action.run_recordCall, Action.run_nextOutcome]
  generalize w.outcomes.next.1 = exchange
  cases exchange with
  | failedSending s => exact ⟨_, rfl⟩
  | failedReading s => exact ⟨_, rfl⟩
  | reply status text =>
    obtain ⟨entries, accepted⟩ := run_accept timeout call status text _
    rw [accepted]
    simp only [List.append_assoc]
    exact ⟨_, rfl⟩

end Transport

namespace Executor

section

variable [Runtime]

theorem settled_reply (timeout : Timeout) {status : Int} {text : Text} {data : Json}
    (decoded : Body.decode text = .ok data) :
    settled ((Exchange.reply status text).result timeout) =
      Failure.ofChecked (Reply.ofStatus status data) := by
  rw [Exchange.result, decoded, ok_bind]
  rcases Reply.ofChecked_ofStatus status data with ⟨reply, same, -, -⟩ | ⟨issues, same⟩
  · rw [same, ok_bind]
    by_cases refused : reply.isError
    · rw [if_pos refused]
      rfl
    · rw [if_neg refused]
      rfl
  · rw [same]
    rfl

theorem execute_session (timeout : Timeout) {d : Descriptor} {sent : Call}
    (ready : Transport.prepared d.call = .ok sent) (w : World Exchange) :
    ((execute (Transport.session timeout) d).run w).1 =
      Timing.stamp w.wall.next.1 >>= fun start =>
        settled (w.outcomes.next.1.result timeout) >>= timed w (dispatched d w) start := by
  obtain ⟨entries, called⟩ := Transport.run_session_ok timeout ready (dispatched d w)
  rw [execute_result, called]
  rfl

theorem execute_unprepared (timeout : Timeout) {d : Descriptor} {failure : Failure}
    (unready : Transport.prepared d.call = .error failure) (w : World Exchange) :
    ((execute (Transport.session timeout) d).run w).1 =
      Timing.stamp w.wall.next.1 >>= fun _ => .error failure := by
  obtain ⟨fault, -, rfl⟩ := Transport.prepared_eq_error.mp unready
  rw [execute_result, Transport.run_session_error timeout unready]
  rfl

/-- An execution over a session. A reply counts as one that a direct transport hands back; without
a reply, the reason is what ended the exchange. -/
structure Detour (timeout : Timeout) (d : Descriptor) (w : World Exchange)
    (result : Except Failure Execution) : Prop where
  replied : ∀ status text, w.outcomes.next.1 = .reply status text →
    Json.read .lenient text ≠ .error .tooDeep → ∃ data, Body.decode text = .ok data ∧
      (∀ v : World Outcome, v.outcomes.next.1 = .reply status data → v.monotonic = w.monotonic →
        v.wall = w.wall → result = ((execute Transport.direct d).run v).1) ∧
      (100 ≤ status → status ≤ 999 →
        (∃ reply timing, result = .ok ⟨reply, timing⟩ ∧ reply.status = status ∧
          reply.data = data) ∨
        ∃ failure, result = .error failure ∧ OfClocks failure) ∧
      (status < 100 → result = .error (.invalid [⟨[Text.ofString "status"], .tooSmall⟩])) ∧
      (999 < status → result = .error (.invalid [⟨[Text.ofString "status"], .tooLarge⟩]))
  nested : ∀ status text, w.outcomes.next.1 = .reply status text →
    Json.read .lenient text = .error .tooDeep → result = .error .nestedTooDeep
  raised : ∀ s, w.outcomes.next.1 = .failedSending s ∨ w.outcomes.next.1 = .failedReading s →
    Translated timeout s result

theorem detour_session (timeout : Timeout) {d : Descriptor} {sent : Call}
    (ready : Transport.prepared d.call = .ok sent) {w : World Exchange}
    (ordinary : w.wall.next.1.Ordinary) :
    Detour timeout d w ((execute (Transport.session timeout) d).run w).1 := by
  obtain ⟨start, stamped⟩ := Timing.stamp_ok ordinary
  rw [execute_session timeout ready, stamped, ok_bind]
  constructor
  case replied =>
    intro status text next shallow
    obtain ⟨data, decoded⟩ := Body.decode_ok shallow
    rw [next, settled_reply timeout decoded]
    refine ⟨data, decoded, ?_, ?_, ?_, ?_⟩
    · intro v same monotonic wall
      rw [execute_direct, same, settled_direct, wall, stamped, ok_bind]
      have clocks : timed w (dispatched d w) start = timed v (dispatched d v) start := by
        funext reply
        apply timed_congr <;> simp only [dispatched, monotonic, wall]
      rw [clocks]
    · intro low high
      rw [Reply.ofStatus_inRange low high, ok_bind]
      rcases timed_cases w (dispatched d w) start ⟨status, data, low, high⟩ with
        ⟨timing, h⟩ | failed
      · exact .inl ⟨_, timing, h, rfl, rfl⟩
      · exact .inr failed
    · intro small
      rw [Reply.ofStatus_small small]
      rfl
    · intro large
      rw [Reply.ofStatus_large large]
      rfl
  case nested =>
    intro status text next deep
    rw [next, Exchange.result, Body.decode_tooDeep deep]
    rfl
  case raised =>
    intro s next
    rcases next with next | next <;> rw [next] <;> exact translated_refusal timeout s _

/-- The session is asked unless the headers cannot be shown, and then their fault is what the
execution fails with. -/
theorem execute_over_session (timeout : Timeout) (d : Descriptor) (w : World Exchange)
    (ordinary : w.wall.next.1.Ordinary) :
    let result := ((execute (Transport.session timeout) d).run w).1
    let after := ((execute (Transport.session timeout) d).run w).2
    (∀ sent, Transport.prepared d.call = .ok sent →
      Detour timeout d w result ∧ after.calls = w.calls ++ [sent] ∧
        after.outcomes = w.outcomes.next.2) ∧
    ∀ fault, Header.tryPrepare d.headers = .error fault →
      result = .error (.unsendable fault) ∧ after.calls = w.calls ∧
        after.outcomes = w.outcomes := by
  intro result after
  obtain ⟨start, stamped⟩ := Timing.stamp_ok ordinary
  have offstage : Offstage fun w : World Exchange => (w.calls, w.outcomes) :=
    ⟨fun _ => rfl, fun _ => rfl, fun _ _ => rfl⟩
  obtain ⟨calls, outcomes⟩ :=
    Prod.mk.inj (execute_view offstage (t := Transport.session timeout) d stamped)
  constructor
  · intro sent ready
    obtain ⟨entries, called⟩ := Transport.run_session_ok timeout ready (dispatched d w)
    rw [called] at calls outcomes
    exact ⟨detour_session timeout ready ordinary, calls, outcomes⟩
  · intro fault unshown
    have unready : Transport.prepared d.call = .error (.unsendable fault) :=
      Transport.prepared_eq_error.mpr ⟨fault, d.call_headers ▸ unshown, rfl⟩
    rw [Transport.run_session_error timeout unready] at calls outcomes
    refine ⟨?_, calls, outcomes⟩
    exact (execute_unprepared timeout unready w).trans (by rw [stamped]; rfl)

end

theorem refused_reply_returned :
    let clock : Feed Double := .ofList (.zero false) []
    let text := Text.ofString "nope"
    let w : World Exchange := ⟨.ofList (.reply 404 text) [], clock, clock, [], []⟩
    let v : World Outcome := ⟨.ofList (.reply 404 (.str text)) [], clock, clock, [], []⟩
    let d : Descriptor :=
      ⟨.get, Text.ofString "x", none, [], .obj [], Text.ofString "x"⟩
    w.wall.next.1.Ordinary ∧
      ((execute (Transport.session .never) d).run w).1 = ((execute Transport.direct d).run v).1 ∧
      ((execute (Transport.session .never) d).run w).1.toOption.map (fun e =>
        (e.reply.status, e.timing)) = some (404, ⟨0, 0, 0⟩) := by
  intro clock text w v d
  have ordinary : w.wall.next.1.Ordinary := ⟨0, rfl, by decide⟩
  obtain ⟨data, decoded, same, -⟩ :=
    ((execute_over_session .never d w ordinary).1 d.call rfl).1.replied 404 text rfl nofun
  cases decoded
  exact ⟨ordinary, same v rfl rfl rfl, by decide +kernel⟩

end Executor

end RequestLine
