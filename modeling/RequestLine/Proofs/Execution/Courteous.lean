import RequestLine.Proofs.Execution.Settled
import RequestLine.Proofs.Timing

set_option autoImplicit false

namespace RequestLine

structure Feed.Continues {α : Type} (before after : Feed α) : Prop where
  value : after.value = before.value
  taken : before.taken ≤ after.taken

namespace Feed.Continues

variable {α : Type} {a b c : Feed α}

theorem refl (a : Feed α) : a.Continues a := ⟨rfl, Nat.le_refl _⟩

theorem trans (first : a.Continues b) (second : b.Continues c) : a.Continues c :=
  ⟨second.value.trans first.value, Nat.le_trans first.taken second.taken⟩

theorem next (a : Feed α) : a.Continues a.next.2 := ⟨rfl, Nat.le_succ _⟩

end Feed.Continues

namespace Feed.Steady

variable {clock later : Feed Double}

theorem next (h : clock.Steady) : clock.next.1.Ordinary := h.ordinary _

theorem next_later (h : clock.Steady) (onward : clock.Continues later) :
    later.next.1.Ordinary ∧ later.next.1.atLeast clock.next.1 = true := by
  rw [Feed.next, onward.value]
  exact ⟨h.ordinary _, h.ordered _ _ onward.taken⟩

end Feed.Steady

variable {ω : Type}

structure World.Continues (before after : World ω) : Prop where
  outcomes : before.outcomes.Continues after.outcomes
  monotonic : before.monotonic.Continues after.monotonic
  wall : before.wall.Continues after.wall

/-- Whenever it is called from `w` on, the transport hands back a reply or fails for the network,
and does nothing to the world but take what comes next. -/
structure Transport.Courteous (t : Transport ω) (w : World ω) : Prop where
  result : ∀ call mid, w.Continues mid →
    (∃ reply, ((t call).run mid).1 = .ok reply) ∨
      ∃ message carried, ((t call).run mid).1 = .error (.network message carried)
  continues : ∀ call mid, w.Continues mid → mid.Continues ((t call).run mid).2

def Outcome.Polite (outcome : Outcome) : Prop :=
  (∃ reply, outcome.result = .ok reply) ∨
    ∃ message carried, outcome.result = .error (.network message carried)

theorem Transport.courteous_direct {w : World Outcome}
    (polite : ∀ n, (w.outcomes.value n).Polite) : direct.Courteous w where
  result call mid onward := by
    rw [run_direct]
    have next : mid.outcomes.next.1 = w.outcomes.value mid.outcomes.taken :=
      congrFun onward.outcomes.value _
    exact next ▸ polite _
  continues call mid onward := by
    rw [run_direct]
    exact ⟨.next _, .refl _, .refl _⟩

namespace Executor

theorem continues_dispatched (d : Descriptor) (w : World ω) : w.Continues (dispatched d w) :=
  ⟨.refl _, .next _, .next _⟩

theorem settled_polite {result : Except Failure Reply}
    (polite : (∃ reply, result = .ok reply) ∨
      ∃ message carried, result = .error (.network message carried)) :
    (∃ reply, settled result = .ok reply) ∨
      ∃ reason, settled result = .error (.unreachable reason) := by
  rcases polite with ⟨reply, rfl⟩ | ⟨message, _ | reply, rfl⟩
  · exact .inl ⟨reply, rfl⟩
  · exact .inr ⟨message, rfl⟩
  · exact .inl ⟨reply, rfl⟩

theorem timed_ok {before left : World ω} (onward : before.Continues left)
    (monotonic : before.monotonic.Steady) (wall : before.wall.Steady) (start : Int)
    (reply : Reply) : ∃ timing, timed before left start reply = .ok ⟨reply, timing⟩ := by
  obtain ⟨last, ordered⟩ := monotonic.next_later onward.monotonic
  obtain ⟨stop, stamped⟩ := Timing.stamp_ok (wall.next_later onward.wall).1
  obtain ⟨duration, measured, nonneg⟩ := Timing.elapsed_ok monotonic.next last ordered
  refine ⟨⟨duration.toNat, start, stop⟩, ?_⟩
  rw [timed, stamped, ok_bind, measured, ok_bind, Timing.ofDuration_ok nonneg]
  rfl

theorem execute_courteous {t : Transport ω} {w : World ω} (courteous : t.Courteous w)
    (monotonic : w.monotonic.Steady) (wall : w.wall.Steady) (d : Descriptor) :
    (∃ e, ((execute t d).run w).1 = .ok e) ∨
      ∃ reason, ((execute t d).run w).1 = .error (.unreachable reason) := by
  have ready := continues_dispatched d w
  obtain ⟨start, stamped⟩ := Timing.stamp_ok wall.next
  have called := courteous.continues d.call _ ready
  have onward : w.Continues ((t d.call).run (dispatched d w)).2 :=
    ⟨ready.outcomes.trans called.outcomes, ready.monotonic.trans called.monotonic,
      ready.wall.trans called.wall⟩
  rw [execute_result, stamped, ok_bind]
  rcases settled_polite (courteous.result d.call _ ready) with ⟨reply, h⟩ | ⟨reason, h⟩
  · obtain ⟨timing, h'⟩ := timed_ok onward monotonic wall start reply
    exact .inl ⟨_, by rw [h, ok_bind, h']⟩
  · exact .inr ⟨reason, by rw [h]; rfl⟩

end Executor

end RequestLine
