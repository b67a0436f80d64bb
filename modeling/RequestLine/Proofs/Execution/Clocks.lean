import RequestLine.Proofs.Double.Nearest
import RequestLine.Proofs.Execution.Settled
import RequestLine.Proofs.Timing

set_option autoImplicit false

namespace RequestLine.Executor

variable {ω : Type} {transport : Transport ω} {d : Descriptor} {w left : World ω} {reply : Reply}

def backwards : Failure := .invalid [⟨[Text.ofString "duration"], .tooSmall⟩]

/-- The reply is the result, with the milliseconds rounded to an integer and the stamps in order. -/
structure Timed (reply : Reply) (milliseconds : Double) (result : Except Failure Execution)
    (timing : Timing) : Prop where
  returned : result = .ok ⟨reply, timing⟩
  duration : milliseconds.NearestEven timing.duration
  ordered : timing.start ≤ timing.stop

theorem settled_of_gives {before : World ω} (given : transport.Gives d.call reply before left) :
    settled ((transport d.call).run before).1 = .ok reply ∧
      ((transport d.call).run before).2 = left := by
  rcases given with h | ⟨message, h⟩ <;> rw [h] <;> exact ⟨rfl, rfl⟩

theorem timed_eq {before : World ω} {start stop duration : Int}
    (stamped : Timing.stamp left.wall.next.1 = .ok stop)
    (measured : Timing.elapsed before.monotonic.next.1 left.monotonic.next.1 = .ok duration) :
    timed before left start reply =
      if duration < 0 then .error backwards else .ok ⟨reply, duration.toNat, start, stop⟩ := by
  rw [timed, stamped, ok_bind, measured, ok_bind, Timing.ofDuration]
  split <;> rfl

theorem execute_of_gives (given : transport.Gives d.call reply (dispatched d w) left)
    (first : w.monotonic.next.1.Ordinary) (last : left.monotonic.next.1.Ordinary)
    (firstWall : w.wall.next.1.Ordinary) (lastWall : left.wall.next.1.Ordinary)
    (wall : left.wall.next.1.atLeast w.wall.next.1 = true) :
    let milliseconds := (left.monotonic.next.1.sub w.monotonic.next.1).mul Timing.thousand
    let result := ((execute transport d).run w).1
    ∃ n, milliseconds.round = .ok n ∧
      (n < 0 ∧ result = .error backwards ∨
        0 ≤ n ∧ ∃ timing, Timed reply milliseconds result timing ∧ timing.duration = n) := by
  intro milliseconds result
  obtain ⟨a, valueA, smallA⟩ := first
  obtain ⟨b, valueB, smallB⟩ := last
  have nearest := Timing.round_elapsed valueA valueB smallA smallB
  obtain ⟨start, started⟩ := Timing.stamp_ok firstWall
  obtain ⟨stop, stopped⟩ := Timing.stamp_ok lastWall
  obtain ⟨settles, leaves⟩ := settled_of_gives given
  generalize Double.odd Timing.milliseconds (b - a) = n at nearest
  have measured : Timing.elapsed w.monotonic.next.1 left.monotonic.next.1 = .ok n := by
    rw [Timing.elapsed, nearest]
    rfl
  have same : result = timed w left start reply := by
    unfold result
    rw [execute_result, started, ok_bind, settles, ok_bind, leaves]
  rw [timed_eq stopped measured] at same
  refine ⟨n, nearest, ?_⟩
  by_cases negative : n < 0
  · exact .inl ⟨negative, by rw [same, if_pos negative]⟩
  · rw [if_neg negative] at same
    have natural := Int.toNat_of_nonneg (Int.not_lt.mp negative)
    refine .inr ⟨Int.not_lt.mp negative, _, ⟨same, ?_, ?_⟩, natural⟩
    · simp only [natural]
      exact .of_round nearest
    · exact Timing.stamp_mono firstWall lastWall wall started stopped

theorem reply_outlives_clocks (given : transport.Gives d.call reply (dispatched d w) left)
    (first : w.monotonic.next.1.Ordinary) (last : left.monotonic.next.1.Ordinary)
    (firstWall : w.wall.next.1.Ordinary) (lastWall : left.wall.next.1.Ordinary)
    (wall : left.wall.next.1.atLeast w.wall.next.1 = true) :
    let start := w.monotonic.next.1
    let stop := left.monotonic.next.1
    let milliseconds := (stop.sub start).mul Timing.thousand
    let result := ((execute transport d).run w).1
    (stop.atLeast start = true → ∃ timing, Timed reply milliseconds result timing) ∧
    (stop.atLeast start = false →
      (result = .error backwards ↔ ∃ n, milliseconds.NearestEven n ∧ n < 0) ∧
      (result = .error backwards ∨
        ∃ timing, Timed reply milliseconds result timing ∧ timing.duration = 0)) ∧
    (∀ a b, start.units? = some a → stop.units? = some b → b ≤ a →
      2000 * (a - b) ≤ Double.unit →
        ∃ timing, Timed reply milliseconds result timing ∧ timing.duration = 0) := by
  intro start stop milliseconds result
  obtain ⟨n, rounded, outcome⟩ := execute_of_gives given first last firstWall lastWall wall
  have nearest : milliseconds.NearestEven n := .of_round rounded
  have kept (nonneg : 0 ≤ n) : ∃ timing, Timed reply milliseconds result timing ∧
      timing.duration = n :=
    (outcome.resolve_left fun failed => Int.not_lt.mpr nonneg failed.1).2
  refine ⟨fun later => ?_, fun earlier => ⟨⟨fun failed => ?_, ?_⟩, ?_⟩,
    fun a b valueA valueB order half => ?_⟩
  · obtain ⟨timing, timed, -⟩ := kept (Timing.elapsed_nonneg first last later rounded)
    exact ⟨timing, timed⟩
  · rcases outcome with ⟨negative, -⟩ | ⟨-, timing, timed, -⟩
    · exact ⟨n, nearest, negative⟩
    · exact absurd (timed.returned.symm.trans failed) nofun
  · rintro ⟨m, other, negative⟩
    obtain rfl := other.unique nearest
    exact (outcome.resolve_right fun passed => Int.not_lt.mpr passed.1 negative).2
  · have nonpos := Timing.elapsed_nonpos first last earlier rounded
    refine outcome.imp And.right fun ⟨nonneg, timing, timed, duration⟩ => ⟨timing, timed, ?_⟩
    omega
  · have zero := Timing.elapsed_zero first last valueA valueB order half rounded
    obtain ⟨timing, timed, duration⟩ := kept (Int.le_of_eq zero.symm)
    exact ⟨timing, timed, by omega⟩

theorem half_step_back_forgiven :
    let start : Double := .ofDecimal false 10005 (-4)
    let stop : Double := .ofInt 1
    let wall : Double := .ofDecimal true 19 (-4)
    let later : Double := .ofDecimal true 11 (-4)
    let w : World Outcome := ⟨.ofList (.network [] (some (503, .null))) [],
      .ofList start [start, stop], .ofList wall [wall, later], [], []⟩
    let d : Descriptor :=
      ⟨.get, Text.ofString "x", none, [], .obj [], Text.ofString "x"⟩
    let result := ((execute Transport.direct d).run w).1
    stop.atLeast start = false ∧ later.atLeast wall = true ∧
      (∃ timing, result = .ok ⟨⟨503, .null, by decide⟩, timing⟩ ∧ timing.duration = 0 ∧
        timing.start ≤ timing.stop) ∧
      result.toOption.map (·.timing) = some ⟨0, -1, -1⟩ := by
  intro start stop wall later w d result
  have given : Transport.direct.Gives d.call ⟨503, .null, by decide⟩ (dispatched d w)
      ((Transport.direct d.call).run (dispatched d w)).2 :=
    .inr ⟨[], rfl⟩
  have kept := reply_outlives_clocks given (by decide +kernel) (by decide +kernel)
    (by decide +kernel) (by decide +kernel) (by decide +kernel)
  obtain ⟨timing, timed, duration⟩ := kept.2.2 (start.units?.getD 0) (stop.units?.getD 0)
    (by decide +kernel) (by decide +kernel) (by decide +kernel) (by decide +kernel)
  exact ⟨by decide +kernel, by decide +kernel, ⟨timing, timed.returned, duration, timed.ordered⟩,
    by decide +kernel⟩

end RequestLine.Executor
