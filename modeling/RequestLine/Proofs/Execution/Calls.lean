import RequestLine.Proofs.Execution.Settled
import RequestLine.Proofs.Line.Order
import RequestLine.Proofs.Timing

set_option autoImplicit false

namespace RequestLine

variable {ω : Type}

namespace Transport

structure Records (t : Transport ω) : Prop where
  calls : ∀ call w, ((t call).run w).2.calls = w.calls ++ [call]
  wall : ∀ call w, ((t call).run w).2.wall.value = w.wall.value

theorem records_noted {t : Transport ω}
    (keeps : ∀ call w, ((t call).run w).2.wall.value = w.wall.value) : t.noted.Records where
  calls call w := by rw [run_noted]
  wall call w := by
    rw [run_noted]
    exact keeps call w

end Transport

def Line.calls [Runtime] (line : Json) : List Call :=
  match parse line with
  | .ok d => [d.call]
  | .error _ => []

theorem Line.flatMap_calls [Runtime] (lines : List Json) :
    lines.flatMap calls =
      (lines.filterMap fun line => (parse line).toOption).map Descriptor.call := by
  induction lines with
  | nil => rfl
  | cons line lines ih =>
    rw [List.flatMap_cons, ih]
    cases accepted : parse line with
    | error failure =>
      rw [calls, accepted, List.filterMap_cons_none (by rw [accepted]; rfl)]
      rfl
    | ok d =>
      rw [calls, accepted, List.filterMap_cons_some (by rw [accepted]; rfl)]
      rfl

namespace Executor

theorem execute_calls {t : Transport ω} (records : t.Records) (d : Descriptor) {w : World ω}
    (ordinary : w.wall.next.1.Ordinary) :
    ((execute t d).run w).2.calls = w.calls ++ [d.call] ∧
      ((execute t d).run w).2.wall.value = w.wall.value := by
  obtain ⟨start, stamped⟩ := Timing.stamp_ok ordinary
  have offstage : Offstage fun w : World ω => (w.calls, w.wall.value) :=
    ⟨fun _ => rfl, fun _ => rfl, fun _ _ => rfl⟩
  obtain ⟨calls, wall⟩ := Prod.mk.inj (execute_view offstage (t := t) d stamped)
  exact ⟨calls.trans (records.calls d.call _), wall.trans (records.wall d.call _)⟩

section

variable [Runtime] {t : Transport ω}

theorem step_calls (records : t.Records) (line : Json) {w : World ω}
    (ordinary : ∀ n, (w.wall.value n).Ordinary) :
    (w.step (run t line)).1.calls = Line.calls line ∧
      (w.step (run t line)).2.wall.value = w.wall.value := by
  change ((run t line).run { w with calls := [], log := [] }).2.calls = _ ∧
    ((run t line).run { w with calls := [], log := [] }).2.wall.value = _
  rw [Line.calls]
  cases parsed : Line.parse line with
  | error failure =>
    rw [run_of_parse_error t parsed]
    exact ⟨rfl, rfl⟩
  | ok d =>
    rw [run_of_parse t parsed]
    exact execute_calls records d (ordinary w.wall.taken)

theorem steps_calls (records : t.Records) (lines : List Json) {w : World ω}
    (ordinary : ∀ n, (w.wall.value n).Ordinary) :
    (w.steps (lines.map (run t))).map (·.calls) = lines.map Line.calls := by
  -- The clock has the same readings in every step, so each call can be dated.
  induction lines generalizing w with
  | nil => rfl
  | cons line lines ih =>
    obtain ⟨calls, wall⟩ := step_calls records line ordinary
    rw [List.map_cons, World.steps, List.map_cons, List.map_cons, calls,
      ih (fun n => wall ▸ ordinary n)]

/-- In a run of lines each step makes the calls of its line: none, or the one that the descriptor
asks for. What a get would have sent as a body makes no difference to its call. -/
theorem one_call_per_line {t : Transport ω}
    (keeps : ∀ call w, ((t call).run w).2.wall.value = w.wall.value) {w : World ω}
    (ordinary : ∀ n, (w.wall.value n).Ordinary) (lines : List Json) :
    (w.steps (lines.map (run t.noted))).map (·.calls) = lines.map Line.calls ∧
    (w.steps (lines.map (run t.noted))).flatMap (·.calls) =
      (lines.filterMap fun line => (Line.parse line).toOption).map Descriptor.call ∧
    (∀ d : Descriptor, (d.method = .get → d.call = ⟨.get, d.fullUrl, none, d.headers⟩) ∧
      (d.method = .post → d.call = ⟨.post, d.fullUrl, some d.body, d.headers⟩)) ∧
    ∀ a b d d', Line.parse (.str a) = .ok d → Line.parse (.str b) = .ok d' → d.method = .get →
      a.segments.filter (!Line.isBody ·) = b.segments.filter (!Line.isBody ·) →
      Line.calls (.str a) = Line.calls (.str b) := by
  have each : (w.steps (lines.map (run t.noted))).map (·.calls) = lines.map Line.calls :=
    steps_calls (Transport.records_noted keeps) lines ordinary
  refine ⟨each, ?_, fun d => ⟨fun get => ?_, fun post => ?_⟩, ?_⟩
  · rw [List.flatMap_def, each, ← List.flatMap_def, Line.flatMap_calls]
  · rw [Descriptor.call, get]
  · rw [Descriptor.call, post]
  · intro a b d d' first second get same
    have alike := Line.parse_without_bodies first second same
    rw [Line.calls, Line.calls, first, second, alike]
    simp only [Descriptor.call, get]

end

theorem failures_do_not_retry :
    let clock : Feed Double := .ofList (.zero false) []
    let w : World Outcome :=
      ⟨.ofList (.network "down" none) [.raised ⟨.ofName "KeyError", "k"⟩], clock, clock, [], []⟩
    let lines := [Text.ofString "HTTP PUT | URL x", Text.ofString "HTTP GET | URL x | BODY 1",
      Text.ofString "HTTP POST | URL y | BODY 2", Text.ofString "HTTP GET | URL x"]
    (w.steps (lines.map fun t => run Transport.direct (.str t))).map (·.calls) =
      [[], [⟨.get, Text.ofString "x", none, none⟩],
        [⟨.post, Text.ofString "y", some (.int 2), none⟩],
        [⟨.get, Text.ofString "x", none, none⟩]] := by
  intro clock w lines
  have keeps (call : Call) (w : World Outcome) :
      ((Transport.direct call).run w).2.wall.value = w.wall.value := by
    rw [Transport.run_direct]
  have ordinary (n : Nat) : (w.wall.value n).Ordinary := ⟨0, rfl, by decide⟩
  obtain ⟨each, -⟩ := one_call_per_line keeps ordinary (lines.map .str)
  rw [Transport.noted_direct, List.map_map] at each
  exact each

end Executor

end RequestLine
