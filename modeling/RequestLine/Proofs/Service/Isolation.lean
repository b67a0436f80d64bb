import Mathlib.Data.List.InsertIdx
import RequestLine.Proofs.Execution.Footprint
import RequestLine.Proofs.Service.Boundary

set_option autoImplicit false

namespace RequestLine.Service

open Executor (Footprint Takes)

theorem Resource.eq_path {path : Text} {resource : Resource}
    (found : Resource.ofPath? path = some resource) : path = Text.ofString resource.path := by
  have same := List.find?_some found
  exact (beq_iff_eq.mp same).symm

section

variable [Runtime] {ω : Type} {s : Service ω} {r : Http.Request} {t : Transport ω}
  {d : Descriptor}

/-- The request has the executor call what the descriptor says. -/
structure Reaches (s : Service ω) (r : Http.Request) (t : Transport ω) (d : Descriptor) : Prop where
  post : r.PostsLine
  line : ∃ v, line r = .ok v ∧ Line.parse v = .ok d
  installed : s.transport = some t

/-- The request does not come as far as the executor: where it goes or what it carries keeps it
from there, or there is no executor. -/
inductive Stops (s : Service ω) (r : Http.Request) : Prop where
  | elsewhere (other : ¬ r.PostsLine)
  | unusable {failure : Failure} (absent : line r = .error failure)
  | rejected {v : Json} {failure : Failure} (present : line r = .ok v)
      (refused : Line.parse v = .error failure)
  | idle {v : Json} {d : Descriptor} (present : line r = .ok v) (parsed : Line.parse v = .ok d)
      (none : s.transport = none)

theorem stops_iff : Stops s r ↔ ¬ ∃ t d, Reaches s r t d := by
  constructor
  · rintro stops ⟨t, d, post, ⟨v, present, parsed⟩, installed⟩
    cases stops with
    | elsewhere other => exact other post
    | unusable absent => cases absent.symm.trans present
    | rejected given refused =>
      cases given.symm.trans present
      cases refused.symm.trans parsed
    | idle _ _ none => cases none.symm.trans installed
  · intro unreached
    by_cases post : r.PostsLine
    · cases present : line r with
      | error failure => exact .unusable present
      | ok v =>
        cases parsed : Line.parse v with
        | error failure => exact .rejected present parsed
        | ok d =>
          cases installed : s.transport with
          | none => exact .idle present parsed installed
          | some t => exact absurd ⟨t, d, post, ⟨v, present, parsed⟩, installed⟩ unreached
    · exact .elsewhere post

theorem run_elsewhere (other : ¬ r.PostsLine) (w : World ω) : ((s.answer r).run w).2 = w := by
  unfold answer
  cases path : r.path? with
  | none => rfl
  | some p =>
    dsimp only
    cases found : Resource.ofPath? p with
    | none => rfl
    | some resource =>
      dsimp only [answerAt]
      split
      next => cases Cors.preflight s.origin _ r <;> rfl
      next =>
        split
        next => rfl
        next own =>
          cases resource with
          | status => rfl
          | line =>
            have same : p = Text.ofString "/reqline" := Resource.eq_path found
            have method : r.method.upper = Text.ofString "POST" := by
              simpa [Resource.methods] using own
            exact absurd ⟨same ▸ path, method⟩ other

theorem exists_perform_error (stops : Stops s r) (post : r.PostsLine) (w : World ω) :
    ∃ failure, (s.perform r).run w = (.error failure, w) := by
  cases stops with
  | elsewhere other => exact absurd post other
  | unusable absent => exact ⟨_, perform_of_error absent w⟩
  | rejected present refused =>
    simp only [perform, present, refused, Action.run_bind, Action.run_ofExcept]
    exact ⟨_, rfl⟩
  | idle present parsed none =>
    simp only [perform, present, parsed, none, Action.run_bind, Action.run_ofExcept]
    exact ⟨_, rfl⟩

theorem run_stopped (stops : Stops s r) (w : World ω) :
    ∃ entries, ((s.answer r).run w).2 = { w with log := w.log ++ entries } := by
  by_cases post : r.PostsLine
  · obtain ⟨failure, failed⟩ := exists_perform_error stops post w
    exact left_of_error post failed
  · exact ⟨[], by rw [run_elsewhere post, List.append_nil]⟩

theorem keeps_supply (stops : Stops s r) : (s.answer r).Keeps World.supply := by
  intro w
  obtain ⟨entries, left⟩ := run_stopped stops w
  rw [left]
  rfl

theorem run_perform (reaches : Reaches s r t d) (w : World ω) :
    ((s.perform r).run w).2 = ((Executor.execute t d).run w).2 := by
  obtain ⟨v, present, parsed⟩ := reaches.line
  simp only [perform, present, parsed, reaches.installed, Action.run_bind, Action.run_ofExcept]
  rcases (Executor.execute t d).run w with ⟨failure | e, left⟩ <;> rfl

theorem run_reached (reaches : Reaches s r t d) (w : World ω) :
    ∃ entries, ((s.answer r).run w).2 =
      { ((Executor.execute t d).run w).2 with
        log := ((Executor.execute t d).run w).2.log ++ entries } := by
  rw [← run_perform reaches w]
  rcases performed : (s.perform r).run w with ⟨failure | ⟨asked, e⟩, left⟩
  · exact left_of_error reaches.post performed
  · exact ⟨[], by rw [answer_of_ok reaches.post performed, List.append_nil]⟩

theorem footprint_answer (reaches : Reaches s r t d) (w : World ω) :
    Footprint t d w ((s.answer r).run w).2 := by
  obtain ⟨entries, left⟩ := run_reached reaches w
  have footprint := Executor.footprint_execute t d w
  rw [left]
  exact ⟨footprint.undated, footprint.silent, footprint.responded⟩

theorem serve_eraseIdx {requests : List Http.Request} {i : Nat} (place : requests[i]? = some r)
    (stops : Stops s r) (w : World ω) :
    s.serve w (requests.eraseIdx i) = (s.serve w requests).eraseIdx i := by
  have action : (requests.map s.answer)[i]? = some (s.answer r) := by
    rw [List.getElem?_map, place, Option.map_some]
  rw [serve, serve, ← World.steps_eraseIdx action (keeps_supply stops), List.eraseIdx_map]

/-- A request that stops short of the executor takes nothing and calls nothing, so that leaving it
out changes nothing for the others. One that gets there takes one outcome at most and reads both
clocks before its call, and again only if there is a response. -/
theorem stopped_requests_leave_no_trace (s : Service ω) :
    (∀ r, Stops s r ↔ ¬ ∃ t d, Reaches s r t d) ∧
    (∀ r, Stops s r → ∀ w, ((s.answer r).run w).2.supply = w.supply ∧
      ((s.answer r).run w).2.calls = w.calls) ∧
    (∀ requests i r, requests[i]? = some r → Stops s r → ∀ w,
      s.serve w (requests.eraseIdx i) = (s.serve w requests).eraseIdx i) ∧
    (∀ r t d, Reaches s r t d → ∀ w, Footprint t d w ((s.answer r).run w).2 ∧
      (t.Scripted → Takes t d w ((s.answer r).run w).2)) ∧
    Transport.direct.Scripted ∧ ∀ timeout, (Transport.session timeout).Scripted := by
  refine ⟨fun r => stops_iff, fun r stops w => ⟨keeps_supply stops w, ?_⟩,
    fun requests i r place stops w => serve_eraseIdx place stops w, fun r t d reaches w => ?_,
    Transport.scripted_direct, Transport.scripted_session⟩
  · obtain ⟨entries, left⟩ := run_stopped stops w
    rw [left]
  · have footprint := footprint_answer reaches w
    exact ⟨footprint, footprint.takes⟩

end

theorem rejected_line_left_out :
    let s : Service Outcome := ⟨Text.ofString "*", some Transport.direct⟩
    let post (body : String) : Http.Request :=
      ⟨Text.ofString "POST", Text.ofString "/reqline", [], body.toUTF8⟩
    let good := post "\x7b\"reqline\": \"HTTP GET | URL x\"\x7d"
    let bad := post "\x7b\"reqline\": \"HTTP GET\"\x7d"
    let w : World Outcome := ⟨.ofList (.reply 200 .null) [], .ofList (.zero false) [],
      .ofList (.zero false) [], [], []⟩
    s.serve w [good, good] = (s.serve w [good, bad, good]).eraseIdx 1 ∧
      ((s.answer bad).run w).2.supply = w.supply ∧
      ((s.answer good).run w).2.monotonic = w.monotonic.next.2.next.2 := by
  intro s post good bad w
  let asked : Descriptor := ⟨.get, Text.ofString "x", none, [], .obj [], Text.ofString "x"⟩
  have refused : Json.read .lenient (Text.ofString "\x7b\"reqline\": \"HTTP GET\"\x7d") =
      .ok (.obj [(Text.ofString "reqline", .str (Text.ofString "HTTP GET"))]) := by rfl
  have accepted : Json.read .lenient (Text.ofString "\x7b\"reqline\": \"HTTP GET | URL x\"\x7d") =
      .ok (.obj [(Text.ofString "reqline", .str (Text.ofString "HTTP GET | URL x"))]) := by rfl
  have stops : Stops s bad :=
    .rejected (line_of_read rfl (by decide +kernel) rfl refused rfl) rfl
  have reaches : Reaches s good Transport.direct asked :=
    ⟨⟨rfl, rfl⟩, ⟨_, line_of_read rfl (by decide +kernel) rfl accepted rfl, rfl⟩, rfl⟩
  have responds : Executor.Responds Transport.direct asked w :=
    ⟨Timing.stamp_ok ⟨0, rfl, by decide⟩, ⟨200, .null, by decide, by decide⟩, _, .inl rfl⟩
  obtain ⟨-, still, leftOut, taken, scripted, -⟩ := stopped_requests_leave_no_trace s
  have takes := (taken good Transport.direct asked reaches w).2 scripted
  exact ⟨leftOut [good, bad, good] 1 bad rfl stops w, (still bad stops w).1,
    (takes.twice responds).1⟩

end RequestLine.Service
