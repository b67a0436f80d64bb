import RequestLine.Proofs.Execution.Detour

set_option autoImplicit false

namespace RequestLine

def Exchange.Raises (e : Exchange) (s : Signal) : Prop :=
  e = .failedSending s ∨ e = .failedReading s

namespace Signal

/-- A failure of the network for which there are no words. Only a connection's failure has the name
of its kind to fall back on. -/
structure Wordless (s : Signal) : Prop where
  silent : s.text = []
  untimed : ¬ s.kind.isTimeout
  nameless : s.kind.isConnection → s.kind.name = ""
  network : s.kind.isConnection ∨ s.kind.isValue

theorem wordless_connection {s : Signal} (untimed : ¬ s.kind.isTimeout)
    (broken : s.kind.isConnection) : s.Wordless ↔ s.text = [] ∧ s.kind.name = "" := by
  constructor
  · intro wordless
    exact ⟨wordless.silent, wordless.nameless broken⟩
  · rintro ⟨silent, nameless⟩
    exact ⟨silent, untimed, fun _ => nameless, .inl broken⟩

theorem wordless_value {s : Signal} (untimed : ¬ s.kind.isTimeout)
    (unbroken : ¬ s.kind.isConnection) : s.Wordless ↔ s.text = [] ∧ s.kind.isValue := by
  constructor
  · intro wordless
    exact ⟨wordless.silent, wordless.network.resolve_left unbroken⟩
  · rintro ⟨silent, value⟩
    exact ⟨silent, untimed, fun broken => absurd broken unbroken, .inr value⟩

theorem words_eq_nil_iff (s : Signal) :
    (if s.text.isEmpty then Text.ofString s.kind.name else s.text) = [] ↔
      s.text = [] ∧ s.kind.name = "" := by
  rcases silent : s.text with _ | ⟨first, rest⟩
  · simp [Text.ofString]
  · simp

theorem refusal_eq_nil_iff (timeout : Timeout) (s : Signal) :
    s.refusal timeout = .network [] none ↔ s.Wordless := by
  unfold refusal
  by_cases timedOut : s.kind.isTimeout
  · rw [if_pos timedOut]
    constructor
    · intro same
      injection same with empty
      cases empty
    · intro wordless
      exact absurd timedOut wordless.untimed
  rw [if_neg timedOut]
  by_cases broken : s.kind.isConnection
  · rw [if_pos broken, Failure.network.injEq, words_eq_nil_iff, wordless_connection timedOut broken]
    exact and_iff_left rfl
  rw [if_neg broken, wordless_value timedOut broken]
  by_cases value : s.kind.isValue
  · rw [if_pos value, Failure.network.injEq]
    simp [value]
  · rw [if_neg value]
    simp [value]

theorem refusal_cases (timeout : Timeout) (s : Signal) :
    (∃ message, s.refusal timeout = .network message none) ∨ s.refusal timeout = .signal s := by
  unfold refusal
  split
  · exact .inl ⟨_, rfl⟩
  · split
    · exact .inl ⟨_, rfl⟩
    · split
      · exact .inl ⟨_, rfl⟩
      · exact .inr rfl

end Signal

namespace Executor

theorem not_ofClocks_unreachable (reason : Text) : ¬ OfClocks (.unreachable reason) := by
  rintro (⟨_, same⟩ | same) <;> cases same

theorem execute_unreachable_iff {ω : Type} {t : Transport ω} {d : Descriptor} {w : World ω}
    {reason : Text} :
    ((execute t d).run w).1 = .error (.unreachable reason) ↔
      (∃ start, Timing.stamp w.wall.next.1 = .ok start) ∧
        settled ((t d.call).run (dispatched d w)).1 = .error (.unreachable reason) := by
  rw [execute_result, bind_eq_error]
  constructor
  -- The clocks fail in other ways, before the call as well as behind it.
  · rintro (undated | ⟨start, dated, failed⟩)
    · exact absurd (stamp_error undated) (not_ofClocks_unreachable reason)
    · rcases bind_eq_error.mp failed with failed | ⟨reply, -, failed⟩
      · exact ⟨⟨start, dated⟩, failed⟩
      · rcases timed_cases w ((t d.call).run (dispatched d w)).2 start reply with
          ⟨timing, same⟩ | ⟨_, same, clocks⟩
        · cases same.symm.trans failed
        · cases same.symm.trans failed
          exact absurd clocks (not_ofClocks_unreachable reason)
  · rintro ⟨⟨start, dated⟩, failed⟩
    exact .inr ⟨start, dated, by rw [failed]; rfl⟩

theorem settled_refusal_iff {timeout : Timeout} {s : Signal} {reason : Text} :
    settled (.error (s.refusal timeout)) = .error (.unreachable reason) ↔
      s.refusal timeout = .network reason none := by
  rcases s.refusal_cases timeout with ⟨message, same⟩ | same
  · simp [same, settled]
  · simp [same, settled]

section

variable [Runtime]

theorem settled_reply_ne_unreachable (timeout : Timeout) (status : Int) (text reason : Text) :
    settled ((Exchange.reply status text).result timeout) ≠ .error (.unreachable reason) := by
  intro failed
  by_cases deep : Json.read .lenient text = .error .tooDeep
  · rw [Exchange.result, Body.decode_tooDeep deep] at failed
    cases failed
  · obtain ⟨data, decoded⟩ := Body.decode_ok deep
    rw [settled_reply timeout decoded] at failed
    rcases Reply.ofChecked_ofStatus status data with ⟨reply, same, -, -⟩ | ⟨issues, same⟩
    · cases same.symm.trans failed
    · cases same.symm.trans failed

theorem settled_exchange_iff {timeout : Timeout} {e : Exchange} {reason : Text} :
    settled (e.result timeout) = .error (.unreachable reason) ↔
      ∃ s, e.Raises s ∧ s.refusal timeout = .network reason none := by
  constructor
  · intro failed
    cases e with
    | reply status text =>
      exact absurd failed (settled_reply_ne_unreachable timeout status text reason)
    | failedSending s => exact ⟨s, .inl rfl, settled_refusal_iff.mp failed⟩
    | failedReading s => exact ⟨s, .inr rfl, settled_refusal_iff.mp failed⟩
  · rintro ⟨s, rfl | rfl, refused⟩ <;> exact settled_refusal_iff.mpr refused

theorem result_exchange_iff {timeout : Timeout} {e : Exchange} {reason : Text} :
    e.result timeout = .error (.network reason none) ↔
      ∃ s, e.Raises s ∧ s.refusal timeout = .network reason none := by
  constructor
  · intro failed
    rw [← settled_exchange_iff, failed]
    rfl
  · rintro ⟨s, rfl | rfl, refused⟩ <;> exact congrArg Except.error refused

theorem session_eq_network_iff {timeout : Timeout} {call : Call} {w : World Exchange}
    {reason : Text} :
    ((Transport.session timeout call).run w).1 = .error (.network reason none) ↔
      (∃ sent, Transport.prepared call = .ok sent) ∧
        ∃ s, w.outcomes.next.1.Raises s ∧ s.refusal timeout = .network reason none := by
  rcases ready : Transport.prepared call with failure | sent
  · obtain ⟨fault, -, rfl⟩ := Transport.prepared_eq_error.mp ready
    rw [Transport.run_session_error timeout ready]
    simp
  · obtain ⟨entries, called⟩ := Transport.run_session_ok timeout ready w
    rw [called, result_exchange_iff]
    simp

theorem execute_session_unreachable_iff {timeout : Timeout} {d : Descriptor} {w : World Exchange}
    {reason : Text} :
    ((execute (Transport.session timeout) d).run w).1 = .error (.unreachable reason) ↔
      (∃ start, Timing.stamp w.wall.next.1 = .ok start) ∧
        (∃ sent, Transport.prepared d.call = .ok sent) ∧
        settled (w.outcomes.next.1.result timeout) = .error (.unreachable reason) := by
  rw [execute_unreachable_iff]
  refine and_congr_right' ?_
  rcases ready : Transport.prepared d.call with failure | sent
  · obtain ⟨fault, -, rfl⟩ := Transport.prepared_eq_error.mp ready
    rw [Transport.run_session_error timeout ready]
    simp [settled]
  · obtain ⟨entries, called⟩ := Transport.run_session_ok timeout ready (dispatched d w)
    rw [called]
    simp [dispatched]

/-- A call that is sent and fails without a reply is told without a reason exactly if it fails for
want of words. Whatever the reason is, it is the one that the session has given. -/
theorem unexplained_iff (timeout : Timeout) (d : Descriptor) (w : World Exchange) :
    (((Transport.session timeout d.call).run w).1 = .error (.network [] none) ↔
      (∃ sent, Transport.prepared d.call = .ok sent) ∧
        ∃ s, w.outcomes.next.1.Raises s ∧ s.Wordless) ∧
    (((execute (Transport.session timeout) d).run w).1 = .error (.unreachable []) ↔
      (∃ start, Timing.stamp w.wall.next.1 = .ok start) ∧
        (∃ sent, Transport.prepared d.call = .ok sent) ∧
        ∃ s, w.outcomes.next.1.Raises s ∧ s.Wordless) ∧
    ∀ reason, ((execute (Transport.session timeout) d).run w).1 = .error (.unreachable reason) →
      ((Transport.session timeout d.call).run w).1 = .error (.network reason none) ∧
        (Failure.unreachable reason).report? = some ("Request failed: " ++ reason) := by
  refine ⟨?_, ?_, ?_⟩
  · simp only [session_eq_network_iff, Signal.refusal_eq_nil_iff]
  · simp only [execute_session_unreachable_iff, settled_exchange_iff, Signal.refusal_eq_nil_iff]
  · intro reason failed
    rw [execute_session_unreachable_iff, settled_exchange_iff] at failed
    exact ⟨session_eq_network_iff.mpr failed.2, rfl⟩

end

theorem silent_value_unexplained :
    ¬ ∀ (timeout : Timeout) (d : Descriptor) (w : World Exchange) (reason : Text),
      ((execute (Transport.session timeout) d).run w).1 = .error (.unreachable reason) →
        reason ≠ [] := by
  intro explained
  let clock : Feed Double := .ofList (.zero false) []
  let w : World Exchange :=
    ⟨.ofList (.failedSending (.raised (.ofName "ValueError") none)) [], clock, clock, [], []⟩
  let d : Descriptor := ⟨.get, Text.ofString "x", none, [], .obj [], Text.ofString "x"⟩
  have ordinary : w.wall.next.1.Ordinary := ⟨0, rfl, by decide⟩
  have failed : ((execute (Transport.session .never) d).run w).1 = .error (.unreachable []) :=
    execute_session_unreachable_iff.mpr ⟨Timing.stamp_ok ordinary, ⟨_, rfl⟩, rfl⟩
  exact explained .never d w [] failed rfl

end Executor

end RequestLine
