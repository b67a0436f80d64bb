import RequestLine.Proofs.Execution.Courteous
import RequestLine.Proofs.Json.Nesting
import RequestLine.Proofs.Line.Failures
import RequestLine.Proofs.Service.Escape

set_option autoImplicit false

namespace RequestLine

namespace Service

open Json (Obeys)

theorem steady_zero : (Feed.ofList (.zero false) []).Steady where
  ordinary n := ⟨0, rfl, by decide⟩
  ordered m n _ := by
    change (Double.zero false).atLeast (Double.zero false) = true
    decide

section

variable [Runtime] {ω : Type} {s : Service ω} {r : Http.Request} {w : World ω}

def NestsTooDeep (c : Codec) (r : Http.Request) : Prop :=
  ∃ t, c.decode? r.body = some t ∧ Json.read .lenient t = .error .tooDeep

theorem line_of_nestsTooDeep {c : Codec} (small : r.body.size ≤ maxBody)
    (known : charset? r = some c) (deep : NestsTooDeep c r) : line r = .error .nestedTooDeep := by
  obtain ⟨t, decoded, read⟩ := deep
  rw [line, payload, bodyText?_eq small known, decoded]
  simp only [ok_bind, read]
  rfl

theorem carried?_of_nestsTooDeep {c : Codec} (deep : NestsTooDeep c r) :
    carried? c r.body = none := by
  obtain ⟨t, decoded, read⟩ := deep
  rw [carried?, content?, decoded, Option.bind_some, read]
  rfl

theorem readable_of_carried? {c : Codec} {v : Json} (present : carried? c r.body = some v) :
    ¬ NestsTooDeep c r := by
  intro deep
  rw [carried?_of_nestsTooDeep deep] at present
  cases present

def Answered (s : Service ω) (r : Http.Request) (w : World ω) (given : Option Nat) : Prop :=
  ∀ status, HasStatus s r w status ↔ given = some status

theorem answered_of_error (post : r.PostsLine) {v : World ω} {failure : Failure}
    (h : (s.perform r).run w = (.error failure, v)) (stays : ¬ failure.Escapes) :
    Answered s r w (some (refusal failure).status) := fun status =>
  ((answers_of_error post h stays).hasStatus_iff status).trans Option.some_inj.symm

theorem answered_of_ok (post : r.PostsLine) {left : World ω} {d : Descriptor} {e : Execution}
    (h : (s.perform r).run w = (.ok (d, e), left)) :
    Answered s r w ((Envelope.write d e).toOption.map fun _ => 200) := by
  intro status
  rw [HasStatus, answer_of_ok post h]
  cases Envelope.write d e with
  | error reason => exact ⟨nofun, nofun⟩
  | ok t =>
    constructor
    · rintro ⟨a, after, same, rfl⟩
      cases same
      rfl
    · intro same
      cases same
      exact ⟨_, _, rfl, rfl⟩

inductive Fate (transport : Transport ω) (r : Http.Request) (w : World ω) : Option Nat → Prop where
  | nested (deep : NestsTooDeep .utf8 r) : Fate transport r w (some 500)
  | unusable (readable : ¬ NestsTooDeep .utf8 r) (absent : carried? .utf8 r.body = none) :
      Fate transport r w (some 400)
  | rejected {v : Json} {why : Rejection} (present : carried? .utf8 r.body = some v)
      (parsed : Line.parse v = .error (.rejected why)) : Fate transport r w (some 400)
  | sectionNested {v : Json} (present : carried? .utf8 r.body = some v)
      (parsed : Line.parse v = .error .nestedTooDeep) : Fate transport r w (some 500)
  | unreadable {v : Json} (present : carried? .utf8 r.body = some v)
      (parsed : Line.parse v = .error (.invalid Line.unreadableUrl)) : Fate transport r w (some 500)
  | unreachable {v : Json} {d : Descriptor} {reason : Text}
      (present : carried? .utf8 r.body = some v) (parsed : Line.parse v = .ok d)
      (executed : ((Executor.execute transport d).run w).1 = .error (.unreachable reason)) :
      Fate transport r w (some 400)
  | reported {v : Json} {d : Descriptor} {e : Execution}
      (present : carried? .utf8 r.body = some v) (parsed : Line.parse v = .ok d)
      (executed : ((Executor.execute transport d).run w).1 = .ok e)
      (reportable : Envelope.Reportable d e.reply ∧ Obeys Json.short e.reply.data) :
      Fate transport r w (some 200)
  | unreported {v : Json} {d : Descriptor} {e : Execution}
      (present : carried? .utf8 r.body = some v) (parsed : Line.parse v = .ok d)
      (executed : ((Executor.execute transport d).run w).1 = .ok e)
      (unreportable : ¬ (Envelope.Reportable d e.reply ∧ Obeys Json.short e.reply.data)) :
      Fate transport r w none

section

variable (post : r.PostsLine) {transport : Transport ω} (installed : s.transport = some transport)
  (small : r.body.size ≤ maxBody) (known : charset? r = some .utf8)
  (courteous : transport.Courteous w) (monotonic : w.monotonic.Steady) (wall : w.wall.Steady)

include post installed small known courteous monotonic wall

omit small known in
theorem exists_fate_of_parse {v : Json} {d : Descriptor}
    (present : carried? .utf8 r.body = some v) (given : line r = .ok v)
    (parsed : Line.parse v = .ok d) : ∃ given, Fate transport r w given ∧ Answered s r w given := by
  have same := Executor.run_of_parse transport parsed w
  have ends := Executor.execute_courteous courteous monotonic wall d
  generalize run : (Executor.execute transport d).run w = outcome at same ends
  obtain ⟨result, left⟩ := outcome
  have executed := congrArg Prod.fst run
  rcases ends with ⟨e, rfl⟩ | ⟨reason, rfl⟩
  · obtain ⟨other, again, performed⟩ := perform_of_run_ok given installed same
    cases parsed.symm.trans again
    have answered := answered_of_ok post performed
    have written := Envelope.exists_write_iff (short_of_perform performed)
    cases report : Envelope.write d e with
    | ok t =>
      rw [report] at answered
      exact ⟨_, .reported present parsed executed (written.mp ⟨t, report⟩), answered⟩
    | error reason =>
      rw [report] at answered
      have unreportable := mt written.mpr (by simp [report])
      exact ⟨_, .unreported present parsed executed unreportable, answered⟩
  · have failed := perform_of_run_error given installed same
    exact ⟨_, .unreachable present parsed executed,
      answered_of_error post failed (Failure.not_escapes rfl)⟩

theorem exists_fate : ∃ given, Fate transport r w given ∧ Answered s r w given := by
  by_cases deep : NestsTooDeep .utf8 r
  · have failed := perform_of_error (s := s) (line_of_nestsTooDeep small known deep) w
    exact ⟨_, .nested deep, answered_of_error post failed (Failure.not_escapes rfl)⟩
  have line := line_eq small known fun t decoded read => deep ⟨t, decoded, read⟩
  cases present : carried? .utf8 r.body with
  | none =>
    rw [present] at line
    exact ⟨_, .unusable deep present,
      answered_of_error post (perform_of_error line w) (Failure.not_escapes rfl)⟩
  | some v =>
    rw [present] at line
    have of_error {failure : Failure} (parsed : Line.parse v = .error failure)
        (caught : failure.isCaught = true) : Answered s r w (some (refusal failure).status) :=
      answered_of_error post
        (perform_of_run_error line installed (Executor.run_of_parse_error transport parsed w))
        (Failure.not_escapes caught)
    rcases Line.parse_cases v with ⟨d, parsed⟩ | ⟨why, parsed⟩ | parsed | parsed
    · exact exists_fate_of_parse post installed courteous monotonic wall present line parsed
    · exact ⟨_, .rejected present parsed, of_error parsed rfl⟩
    · exact ⟨_, .sectionNested present parsed, of_error parsed rfl⟩
    · exact ⟨_, .unreadable present parsed, of_error parsed rfl⟩

/-- With transport and clocks in order, the service blames itself for just three kinds of requests,
and the caller for everything else that keeps a request from a result. Only a result that cannot be
reported has no answer. -/
theorem statuses_of_requests :
    (HasStatus s r w 500 ↔ NestsTooDeep .utf8 r ∨ ∃ v, carried? .utf8 r.body = some v ∧
      (Line.parse v = .error .nestedTooDeep ∨
        Line.parse v = .error (.invalid Line.unreadableUrl))) ∧
    (HasStatus s r w 400 ↔ (¬ NestsTooDeep .utf8 r ∧ carried? .utf8 r.body = none) ∨
      ∃ v, carried? .utf8 r.body = some v ∧ ((∃ why, Line.parse v = .error (.rejected why)) ∨
        ∃ d reason, Line.parse v = .ok d ∧
          ((Executor.execute transport d).run w).1 = .error (.unreachable reason))) ∧
    ((∀ status, ¬ HasStatus s r w status) ↔ ∃ v d e, carried? .utf8 r.body = some v ∧
      Line.parse v = .ok d ∧ ((Executor.execute transport d).run w).1 = .ok e ∧
      ¬ (Envelope.Reportable d e.reply ∧ Obeys Json.short e.reply.data)) ∧
    ∀ status, HasStatus s r w status → status = 200 ∨ status = 400 ∨ status = 500 := by
  obtain ⟨given, fate, answered⟩ :=
    exists_fate post installed small known courteous monotonic wall
  simp only [answered _]
  cases fate with
  | nested deep => simp [deep, carried?_of_nestsTooDeep deep]
  | unusable readable absent => simp [readable, absent]
  | rejected present parsed => simp [readable_of_carried? present, present, parsed]
  | sectionNested present parsed => simp [readable_of_carried? present, present, parsed]
  | unreadable present parsed => simp [readable_of_carried? present, present, parsed]
  | unreachable present parsed executed =>
    simp [readable_of_carried? present, present, parsed, executed]
  | reported present parsed executed reportable =>
    simp [readable_of_carried? present, present, parsed, executed, reportable]
  | unreported present parsed executed unreportable =>
    simpa [readable_of_carried? present, present, parsed, executed] using unreportable

end

end

theorem unreadable_url_blamed_on_service :
    let sent := "\x7b\"reqline\": \"HTTP GET | URL \\ud800\"\x7d"
    let s : Service Outcome := ⟨Text.ofString "*", some Transport.direct⟩
    let r : Http.Request := ⟨Text.ofString "POST", Text.ofString "/reqline", [], sent.toUTF8⟩
    let w : World Outcome := ⟨.ofList (.reply 200 .null) [], .ofList (.zero false) [],
      .ofList (.zero false) [], [], []⟩
    HasStatus s r w 500 := by
  intro sent s r w
  let text : Text := Text.ofString "HTTP GET | URL " ++ [.lone 0]
  have content : Json.read .lenient (Text.ofString sent) =
      .ok (.obj [(Text.ofString "reqline", .str text)]) := by
    simp only [sent, text]
    rfl
  have carried : carried? .utf8 r.body = some (.str text) := by
    rw [carried?_eq (Codec.decode?_toUTF8 sent) content]
    rfl
  have parsed : Line.parse (.str text) = .error (.invalid Line.unreadableUrl) := by rfl
  have polite (n : Nat) : (w.outcomes.value n).Polite :=
    .inl ⟨⟨200, .null, by decide⟩, rfl⟩
  have statuses := statuses_of_requests (s := s) (r := r) (w := w) ⟨rfl, rfl⟩ rfl (by decide) rfl
    (Transport.courteous_direct polite) steady_zero steady_zero
  exact statuses.1.mpr (.inr ⟨.str text, carried, .inr parsed⟩)

theorem size_brackets (n : Nat) : (String.ofList (List.replicate n '[')).toUTF8.size = n := by
  induction n with
  | zero => rfl
  | succ n ih =>
    have one : ['['].utf8Encode.size = 1 := by decide
    simp only [String.toUTF8_eq_toByteArray, String.toByteArray_ofList, List.replicate_succ] at ih ⊢
    rw [List.utf8Encode_cons, ByteArray.size_append, ih, one, Nat.add_comm]

theorem brackets_blamed_on_service [Runtime] {ω : Type} (s : Service ω) {r : Http.Request}
    (post : r.PostsLine)
    (known : charset? r = some .utf8) {n : Nat} (deep : Runtime.nesting < n) (few : n ≤ maxBody)
    (body : r.body = (String.ofList (List.replicate n '[')).toUTF8) (w : World ω) :
    r.body.size ≤ maxBody ∧ HasStatus s r w 500 := by
  have small : r.body.size ≤ maxBody := by rwa [body, size_brackets]
  have nested : NestsTooDeep .utf8 r := by
    refine ⟨_, body ▸ Codec.decode?_toUTF8 _, ?_⟩
    have brackets := Json.read_brackets .lenient deep []
    rwa [List.append_nil, ← List.map_replicate, ← String.toList_ofList (l := List.replicate n '[')]
      at brackets
  have failed := perform_of_error (s := s) (line_of_nestsTooDeep small known nested) w
  exact ⟨small, (answered_of_error post failed (Failure.not_escapes rfl) 500).mpr rfl⟩

theorem deep_body_blamed_on_service :
    let brackets := String.ofList (List.replicate 3000 '[')
    let s : Service Outcome := ⟨Text.ofString "*", some Transport.direct⟩
    let r : Http.Request := ⟨Text.ofString "POST", Text.ofString "/reqline", [], brackets.toUTF8⟩
    let w : World Outcome := ⟨.ofList (.reply 200 .null) [], .ofList (.zero false) [],
      .ofList (.zero false) [], [], []⟩
    r.PostsLine ∧ r.body.size ≤ maxBody ∧ charset? r = some .utf8 ∧
      Transport.direct.Courteous w ∧ w.monotonic.Steady ∧ w.wall.Steady ∧ HasStatus s r w 500 := by
  intro brackets
  -- The string itself must not be looked into.
  have body : brackets = String.ofList (List.replicate 3000 '[') := rfl
  clear_value brackets
  intro s r w
  have polite (n : Nat) : (w.outcomes.value n).Polite :=
    .inl ⟨⟨200, .null, by decide⟩, rfl⟩
  obtain ⟨small, blamed⟩ :=
    brackets_blamed_on_service s (r := r) ⟨rfl, rfl⟩ rfl (by decide) (by decide)
      (congrArg String.toUTF8 body) w
  exact ⟨⟨rfl, rfl⟩, small, rfl, Transport.courteous_direct polite, steady_zero, steady_zero,
    blamed⟩

end Service

end RequestLine
