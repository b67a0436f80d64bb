import RequestLine.Proofs.Action
import RequestLine.Proofs.Result
import RequestLine.Proofs.Text.Encodable
import RequestLine.Service

set_option autoImplicit false

/-!
The boundary of the service. What a request to the line resource is answered is determined by what
its body carries and by what parsing and executing that comes to.
-/

namespace RequestLine

structure Http.Request.PostsLine (r : Http.Request) : Prop where
  path : r.path? = some (Text.ofString "/reqline")
  method : r.method.upper = Text.ofString "POST"

theorem Codec.decode?_toUTF8 (s : String) : utf8.decode? s.toUTF8 = some (Text.ofString s) :=
  Text.ofUtf8?_toUTF8 s

/-- Nobody is told: it is not reported, and it gets past whoever catches failures. -/
def Failure.Escapes (failure : Failure) : Prop :=
  failure.report? = none ∧ failure.isCaught = false

theorem Failure.not_escapes {failure : Failure} (caught : failure.isCaught = true) :
    ¬ failure.Escapes := fun escapes => Bool.noConfusion (caught.symm.trans escapes.2)

theorem Failure.isCaught_of_not_escapes {failure : Failure} (stays : ¬ failure.Escapes)
    (untold : failure.report? = none) : failure.isCaught = true := by
  simpa [Escapes, untold] using stays

namespace Service

variable {ω : Type}

def refusal (failure : Failure) : Http.Answer :=
  match failure.report? with
  | some message => .json 400 (Envelope.failed message).write
  | none => .json 500 (Envelope.failed "Internal server error").write

theorem refusal_cases (failure : Failure) :
    (∃ m, refusal failure = .json 400 (Envelope.failed m).write) ∨
      refusal failure = .json 500 (Envelope.failed "Internal server error").write := by
  unfold refusal
  cases failure.report? with
  | none => exact .inr rfl
  | some m => exact .inl ⟨m, rfl⟩

theorem run_refuse {failure : Failure} (stays : ¬ failure.Escapes) (w : World ω) :
    ∃ entry, (refuse failure : Action ω Http.Answer).run w =
      (.ok (refusal failure), { w with log := w.log ++ [entry] }) := by
  unfold refuse refusal
  cases told : failure.report? with
  | some message => exact ⟨_, rfl⟩
  | none => exact ⟨_, by rw [if_pos (failure.isCaught_of_not_escapes stays told)]; rfl⟩

theorem run_refuse_escaping {failure : Failure} (escapes : failure.Escapes) (w : World ω) :
    (refuse failure : Action ω Http.Answer).run w = (.error failure, w) := by
  unfold refuse
  simp only [escapes.1, escapes.2]
  rfl

section

variable [Runtime]

/-- The codec for a request, if its charset is a known one: UTF-8 unless the header names another.
-/
def charset? (r : Http.Request) : Option Codec :=
  match charsetName? r with
  | .ok none | .ok (some []) => some .utf8
  | .ok (some name) => if name.contains (.char '\x00') then none else Runtime.codec? name
  | .error _ => none

def content? (c : Codec) (body : ByteArray) : Option Json :=
  (c.decode? body).bind fun t => (Json.read .lenient t).toOption

/-- What a body carries as its line: the value under the key, unless it does not count as present.
-/
def carried? (c : Codec) (body : ByteArray) : Option Json :=
  (((content? c body).bind Json.members?).bind (Json.get? "reqline")).filter Json.isPresent

theorem carried?_eq {c : Codec} {body : ByteArray} {t : Text} {v : Json}
    (decoded : c.decode? body = some t) (read : Json.read .lenient t = .ok v) :
    carried? c body = (v.members?.bind (Json.get? "reqline")).filter Json.isPresent := by
  rw [carried?, content?, decoded, Option.bind_some, read]
  rfl

theorem decode_eq {name : Text} {c : Codec} (known : Runtime.codec? name = some c)
    (writable : name.contains (.char '\x00') = false) (body : ByteArray) :
    decode name body = .ok (c.decode? body) := by
  rw [decode, writable, known]
  by_cases empty : body.isEmpty = true
  · have same : body = ByteArray.empty := ByteArray.ext (Array.isEmpty_iff.mp empty)
    simp [same, c.empty]
  · simp [empty]

theorem bodyText?_eq {r : Http.Request} {c : Codec} (small : r.body.size ≤ maxBody)
    (known : charset? r = some c) : bodyText? r = .ok (c.decode? r.body) := by
  unfold charset? at known
  unfold bodyText?
  rw [if_neg (Nat.not_lt.mpr small)]
  split at known
  next name =>
    cases known
    simp [name]
  next name =>
    cases known
    simp [name]
  next name present found =>
    split at known
    next => contradiction
    next writable =>
      have decoded := decode_eq known (by simpa using writable) r.body
      cases name with
      | nil => contradiction
      | cons s name => simp [found, decoded]
  next => contradiction

section

variable {r : Http.Request} {c : Codec} (small : r.body.size ≤ maxBody)
  (known : charset? r = some c)
  (shallow : ∀ t, c.decode? r.body = some t → Json.read .lenient t ≠ .error .tooDeep)

include small known shallow

theorem payload_eq : payload r = .ok ((content? c r.body).getD .null) := by
  rw [payload, bodyText?_eq small known, content?]
  cases decoded : c.decode? r.body with
  | none => rfl
  | some t =>
    have inside := shallow t decoded
    cases found : Json.read .lenient t with
    | ok v => simp [bind, Except.bind, found, Except.toOption, pure, Except.pure]
    | error fault =>
      cases fault with
      | malformed => simp [bind, Except.bind, found, Except.toOption, pure, Except.pure]
      | tooDeep => contradiction

theorem line_eq :
    line r = match carried? c r.body with
      | some v => .ok v
      | none => .error .missingLine := by
  have members : ((content? c r.body).getD .null).members? =
      (content? c r.body).bind Json.members? := by
    cases content? c r.body <;> rfl
  rw [line, payload_eq small known shallow, carried?, ← members]
  simp only [bind, Except.bind]
  cases ((content? c r.body).getD .null).members?.bind (Json.get? "reqline") with
  | none => rfl
  | some v => cases present : v.isPresent <;> simp [Option.filter, present] <;> rfl

end

theorem line_of_read {r : Http.Request} {text : String} {content v : Json}
    (body : r.body = text.toUTF8) (small : r.body.size ≤ maxBody)
    (known : charset? r = some .utf8)
    (read : Json.read .lenient (Text.ofString text) = .ok content)
    (carried : (content.members?.bind (Json.get? "reqline")).filter Json.isPresent = some v) :
    line r = .ok v := by
  have decoded : Codec.utf8.decode? r.body = some (Text.ofString text) :=
    body ▸ Codec.decode?_toUTF8 text
  have shallow (t : Text) (found : Codec.utf8.decode? r.body = some t) :
      Json.read .lenient t ≠ .error .tooDeep := by
    rw [← Option.some.inj (decoded.symm.trans found), read]
    exact nofun
  rw [line_eq small known shallow, carried?_eq decoded read, carried]

variable {s : Service ω} {r : Http.Request}

theorem answer_eq (post : r.PostsLine) : s.answer r = s.granted r <$> s.answerLine r := by
  have resource : Resource.ofPath? (Text.ofString "/reqline") = some .line := by decide
  have other : Text.ofString "POST" ≠ Text.ofString "OPTIONS" := by decide
  have own : (Resource.line.methods.map Text.ofString).contains (Text.ofString "POST") = true := by
    decide
  simp only [answer, post.path, resource, answerAt, post.method, if_neg other, own]
  rfl

theorem perform_of_error {failure : Failure} (absent : line r = .error failure) (w : World ω) :
    (s.perform r).run w = (.error failure, w) := by
  rw [perform, absent]
  rfl

section

variable {v : Json} (present : line r = .ok v) {transport : Transport ω}
  (installed : s.transport = some transport) {w after : World ω}

include present installed

theorem perform_of_run_error {failure : Failure}
    (h : (Executor.run transport v).run w = (.error failure, after)) :
    (s.perform r).run w = (.error failure, after) := by
  simp only [perform, present, installed, Executor.run, Action.run_bind, Action.run_ofExcept] at h ⊢
  cases parsed : Line.parse v with
  | error issue =>
    simp only [parsed] at h ⊢
    cases h
    rfl
  | ok d =>
    simp only [parsed] at h ⊢
    rw [h]

theorem perform_of_run_ok {e : Execution}
    (h : (Executor.run transport v).run w = (.ok e, after)) :
    ∃ d, Line.parse v = .ok d ∧ (s.perform r).run w = (.ok (d, e), after) := by
  simp only [perform, present, installed, Executor.run, Action.run_bind, Action.run_ofExcept] at h ⊢
  cases parsed : Line.parse v with
  | error issue =>
    simp only [parsed] at h
    cases h
  | ok d =>
    simp only [parsed] at h ⊢
    exact ⟨d, rfl, by rw [h]; rfl⟩

end

theorem exists_of_perform {d : Descriptor} {e : Execution} {w after : World ω}
    (h : (s.perform r).run w = (.ok (d, e), after)) :
    ∃ v transport, line r = .ok v ∧ Line.parse v = .ok d ∧ s.transport = some transport ∧
      (Executor.execute transport d).run w = (.ok e, after) := by
  obtain ⟨v, w₁, read, h₁⟩ := Action.run_bind_eq_ok.mp h
  obtain ⟨present, rfl⟩ := Action.run_ofExcept_eq_ok.mp read
  obtain ⟨found, w₂, read, h₂⟩ := Action.run_bind_eq_ok.mp h₁
  obtain ⟨parsed, rfl⟩ := Action.run_ofExcept_eq_ok.mp read
  cases installed : s.transport with
  | none =>
    rw [installed] at h₂
    cases h₂
  | some transport =>
    rw [installed] at h₂
    obtain ⟨came, w₃, executed, h₃⟩ := Action.run_bind_eq_ok.mp h₂
    cases h₃
    exact ⟨v, transport, present, parsed, rfl, executed⟩

def Answers (s : Service ω) (r : Http.Request) (w left : World ω) (a : Http.Answer) : Prop :=
  ∃ entries, (s.answer r).run w =
    (.ok (s.granted r a), { left with log := left.log ++ entries })

theorem run_answerLine_error {w left : World ω} {failure : Failure}
    (h : (s.perform r).run w = (.error failure, left)) (stays : ¬ failure.Escapes) :
    ∃ entry, (s.answerLine r).run w =
      (.ok (refusal failure), { left with log := left.log ++ [entry] }) := by
  obtain ⟨entry, refused⟩ := run_refuse stays left
  refine ⟨entry, ?_⟩
  rw [answerLine, Action.run_bind, Action.run_attempt, h]
  exact refused

theorem run_answerLine_escaping {w left : World ω} {failure : Failure}
    (h : (s.perform r).run w = (.error failure, left)) (escapes : failure.Escapes) :
    (s.answerLine r).run w = (.error failure, left) := by
  rw [answerLine, Action.run_bind, Action.run_attempt, h]
  exact run_refuse_escaping escapes left

theorem run_answerLine_ok {w left : World ω} {d : Descriptor} {e : Execution}
    (h : (s.perform r).run w = (.ok (d, e), left)) :
    (s.answerLine r).run w =
      (((Envelope.write d e).mapError .unwritable).map (Http.Answer.json 200), left) := by
  rw [answerLine, Action.run_bind, Action.run_attempt, h]
  simp only [succeed]
  cases Envelope.write d e <;> rfl

/-- All that answering a line can come to. -/
inductive Handled (s : Service ω) (r : Http.Request) (w : World ω) :
    Except Failure Http.Answer × World ω → Prop where
  | reported {d : Descriptor} {e : Execution} {t : Text} {left : World ω}
      (performed : (s.perform r).run w = (.ok (d, e), left))
      (written : Envelope.write d e = .ok t) : Handled s r w (.ok (.json 200 t), left)
  | unwritable {d : Descriptor} {e : Execution} {reason : Unwritable} {left : World ω}
      (performed : (s.perform r).run w = (.ok (d, e), left))
      (unwritten : Envelope.write d e = .error reason) :
      Handled s r w (.error (.unwritable reason), left)
  | refused {failure : Failure} {entry : Log.Entry} {left : World ω}
      (performed : (s.perform r).run w = (.error failure, left)) (stays : ¬ failure.Escapes) :
      Handled s r w (.ok (refusal failure), { left with log := left.log ++ [entry] })
  | escaped {failure : Failure} {left : World ω}
      (performed : (s.perform r).run w = (.error failure, left)) (escapes : failure.Escapes) :
      Handled s r w (.error failure, left)

theorem handled_answerLine (s : Service ω) (r : Http.Request) (w : World ω) :
    Handled s r w ((s.answerLine r).run w) := by
  rcases performed : (s.perform r).run w with ⟨failure | ⟨d, e⟩, left⟩
  · by_cases escapes : failure.Escapes
    · rw [run_answerLine_escaping performed escapes]
      exact .escaped performed escapes
    · obtain ⟨entry, answered⟩ := run_answerLine_error performed escapes
      rw [answered]
      exact .refused performed escapes
  · rw [run_answerLine_ok performed]
    cases written : Envelope.write d e with
    | error reason => exact .unwritable performed written
    | ok t => exact .reported performed written

theorem answers_of_error (post : r.PostsLine) {w left : World ω} {failure : Failure}
    (h : (s.perform r).run w = (.error failure, left)) (stays : ¬ failure.Escapes) :
    Answers s r w left (refusal failure) := by
  obtain ⟨entry, refused⟩ := run_answerLine_error h stays
  refine ⟨[entry], ?_⟩
  rw [answer_eq post, Action.run_map, refused]
  rfl

theorem answer_of_escaping (post : r.PostsLine) {w left : World ω} {failure : Failure}
    (h : (s.perform r).run w = (.error failure, left)) (escapes : failure.Escapes) :
    (s.answer r).run w = (.error failure, left) := by
  rw [answer_eq post, Action.run_map, run_answerLine_escaping h escapes]
  rfl

theorem left_of_error (post : r.PostsLine) {w left : World ω} {failure : Failure}
    (h : (s.perform r).run w = (.error failure, left)) :
    ∃ entries, ((s.answer r).run w).2 = { left with log := left.log ++ entries } := by
  by_cases escapes : failure.Escapes
  · exact ⟨[], by rw [answer_of_escaping post h escapes, List.append_nil]⟩
  · obtain ⟨entries, run⟩ := answers_of_error post h escapes
    exact ⟨entries, by rw [run]⟩

theorem answer_of_ok (post : r.PostsLine) {w left : World ω} {d : Descriptor} {e : Execution}
    (h : (s.perform r).run w = (.ok (d, e), left)) :
    (s.answer r).run w =
      (((Envelope.write d e).mapError .unwritable).map fun t => s.granted r (.json 200 t),
        left) := by
  rw [answer_eq post, Action.run_map, run_answerLine_ok h]
  cases Envelope.write d e <;> rfl

def HasStatus (s : Service ω) (r : Http.Request) (w : World ω) (status : Nat) : Prop :=
  ∃ a after, (s.answer r).run w = (.ok a, after) ∧ a.status = status

/-- A run of the library on `v` came to `result` and left the world `left`; the request is answered
like that. -/
structure AnswersRun (s : Service ω) (r : Http.Request) (w : World ω) (v : Json)
    (result : Except Failure Execution) (left : World ω) : Prop where
  reported : ∀ failure, result = .error failure → ∀ m, failure.report? = some m →
    Answers s r w left (.json 400 (Envelope.failed m).write)
  unreported : ∀ failure, result = .error failure → failure.report? = none →
    failure.isCaught = true →
      Answers s r w left (.json 500 (Envelope.failed "Internal server error").write)
  escaping : ∀ failure, result = .error failure → failure.Escapes →
    (s.answer r).run w = (.error failure, left)
  returned : ∀ e, result = .ok e → ∃ d, Line.parse v = .ok d ∧
    ∀ t, Envelope.write d e = .ok t → Answers s r w left (.json 200 t)
  badRequest : HasStatus s r w 400 ↔ ∃ failure m, result = .error failure ∧
    failure.report? = some m
  serverError : HasStatus s r w 500 ↔ ∃ failure, result = .error failure ∧
    failure.report? = none ∧ failure.isCaught = true
  success : HasStatus s r w 200 ↔ ∃ e d t, result = .ok e ∧ Line.parse v = .ok d ∧
    Envelope.write d e = .ok t

theorem Answers.hasStatus_iff {w left : World ω} {a : Http.Answer} (answers : Answers s r w left a)
    (status : Nat) : HasStatus s r w status ↔ a.status = status := by
  obtain ⟨entries, h⟩ := answers
  constructor
  · rintro ⟨b, after, other, rfl⟩
    rw [h] at other
    cases other
    rfl
  · rintro rfl
    exact ⟨_, _, h, rfl⟩

theorem hasStatus_of_error {w left : World ω} {failure : Failure}
    (h : (s.answer r).run w = (.error failure, left)) (status : Nat) :
    ¬ HasStatus s r w status := by
  rintro ⟨a, after, other, -⟩
  cases h.symm.trans other

theorem answersRun_error (post : r.PostsLine) {w left : World ω} {v : Json} {failure : Failure}
    (h : (s.perform r).run w = (.error failure, left)) :
    AnswersRun s r w v (.error failure) left := by
  by_cases escapes : failure.Escapes
  case pos =>
    have escaped := answer_of_escaping post h escapes
    have none := hasStatus_of_error escaped
    exact {
      reported := by simp [escapes.1]
      unreported := by simp [escapes.2]
      escaping := by simp [escaped]
      returned := nofun
      badRequest := by simp [none, escapes.1]
      serverError := by simp [none, escapes.2]
      success := by simp [none] }
  have answers := answers_of_error post h escapes
  unfold refusal at answers
  have status := answers.hasStatus_iff
  cases told : failure.report? with
  | none =>
    have caught := failure.isCaught_of_not_escapes escapes told
    simp only [told] at answers status
    exact {
      reported := by simp [told]
      unreported := by simpa [told, caught] using answers
      escaping := by simp [escapes]
      returned := nofun
      badRequest := by simp [status, told, Http.Answer.json]
      serverError := by simp [status, told, caught, Http.Answer.json]
      success := by simp [status, Http.Answer.json] }
  | some m =>
    simp only [told] at answers status
    exact {
      reported := by simpa [told] using answers
      unreported := by simp [told]
      escaping := by simp [escapes]
      returned := nofun
      badRequest := by simp [status, told, Http.Answer.json]
      serverError := by simp [status, told, Http.Answer.json]
      success := by simp [status, Http.Answer.json] }

theorem answersRun_ok (post : r.PostsLine) {w left : World ω} {v : Json} {d : Descriptor}
    {e : Execution} (parsed : Line.parse v = .ok d)
    (h : (s.perform r).run w = (.ok (d, e), left)) : AnswersRun s r w v (.ok e) left := by
  have answer := answer_of_ok post h
  cases written : Envelope.write d e with
  | ok t =>
    rw [written] at answer
    have answers : Answers s r w left (.json 200 t) := ⟨[], by rw [answer, List.append_nil]; rfl⟩
    have status := answers.hasStatus_iff
    exact {
      reported := nofun
      unreported := nofun
      escaping := nofun
      returned := fun _ same => ⟨d, parsed, fun u other => by
        cases same
        cases written.symm.trans other
        exact answers⟩
      badRequest := by simp [status, Http.Answer.json]
      serverError := by simp [status, Http.Answer.json]
      success := by simp [status, Http.Answer.json, parsed, written] }
  -- An envelope that cannot be written is no answer at all.
  | error reason =>
    rw [written] at answer
    have none := hasStatus_of_error answer
    exact {
      reported := nofun
      unreported := nofun
      escaping := nofun
      returned := fun _ same => ⟨d, parsed, fun u other => by
        cases same
        simp [written] at other⟩
      badRequest := by simp [none]
      serverError := by simp [none]
      success := by simp [none, parsed, written] }

/-- Within its limits a request is answered like a run of the library on the line that its body
carries. -/
theorem answers_like_run (post : r.PostsLine) {transport : Transport ω}
    (installed : s.transport = some transport) {c : Codec} (small : r.body.size ≤ maxBody)
    (known : charset? r = some c)
    (shallow : ∀ t, c.decode? r.body = some t → Json.read .lenient t ≠ .error .tooDeep)
    (w : World ω) :
    (carried? c r.body = none →
      Answers s r w w (.json 400 (Envelope.failed "Missing reqline in request body").write)) ∧
    ∀ v, carried? c r.body = some v →
      AnswersRun s r w v ((Executor.run transport v).run w).1
        ((Executor.run transport v).run w).2 := by
  have line := line_eq small known shallow
  constructor
  -- Nothing has been run yet, so the world is the one from before.
  · intro absent
    rw [absent] at line
    exact answers_of_error post (perform_of_error line w) (Failure.not_escapes rfl)
  · intro v present
    rw [present] at line
    cases run : (Executor.run transport v).run w with
    | mk result left =>
      cases result with
      | error failure => exact answersRun_error post (perform_of_run_error line installed run)
      | ok e =>
        obtain ⟨d, parsed, performed⟩ := perform_of_run_ok line installed run
        exact answersRun_ok post parsed performed

end

theorem single_section_refused :
    let s : Service Outcome := ⟨Text.ofString "*", some Transport.direct⟩
    let r : Http.Request := ⟨Text.ofString "POST", Text.ofString "/reqline", [],
      "\x7b\"reqline\": \"HTTP GET\"\x7d".toUTF8⟩
    let w : World Outcome := ⟨.ofList (.reply 200 .null) [], .ofList (.zero false) [],
      .ofList (.zero false) [], [], []⟩
    Answers s r w w
      (.json 400 (Envelope.failed "Missing required HTTP or URL keyword").write) := by
  intro s r w
  have decoded : Codec.utf8.decode? "\x7b\"reqline\": \"HTTP GET\"\x7d".toUTF8 =
      some (Text.ofString "\x7b\"reqline\": \"HTTP GET\"\x7d") := by
    decide +kernel
  have content : Json.read .lenient (Text.ofString "\x7b\"reqline\": \"HTTP GET\"\x7d") =
      .ok (.obj [(Text.ofString "reqline", .str (Text.ofString "HTTP GET"))]) := by
    rfl
  have shallow (t : Text) (found : Codec.utf8.decode? r.body = some t) :
      Json.read .lenient t ≠ .error .tooDeep := by
    rw [← Option.some.inj (decoded.symm.trans found), content]
    exact nofun
  have carried : carried? .utf8 r.body = some (.str (Text.ofString "HTTP GET")) := by
    rw [carried?_eq decoded content]
    rfl
  have like := answers_like_run (s := s) (r := r) ⟨rfl, rfl⟩ rfl (by decide) rfl shallow w
  exact (like.2 _ carried).reported (.rejected .missingSection) rfl _ rfl

end Service

end RequestLine
