import RequestLine.Proofs.Envelope
import RequestLine.Proofs.Execution
import RequestLine.Proofs.Line.Language
import RequestLine.Proofs.Service.Boundary

set_option autoImplicit false

namespace RequestLine.Service

open Envelope (Values reportOf handedHeaders shownHeaders)

theorem status_refusal (failure : Failure) : (refusal failure).status ≠ 200 := by
  obtain ⟨m, same⟩ | same := refusal_cases failure <;> simp [same, Http.Answer.json]

variable {ω : Type} {s : Service ω} {r : Http.Request} {w after : World ω}

/-- One call was made for the descriptor and came to the reply, between the readings of the clocks
that the timing is taken from. -/
structure Happened (t : Transport ω) (d : Descriptor) (reply : Reply) (timing : Timing)
    (w after : World ω) : Prop where
  called : after.calls = w.calls ++ [d.call]
  carried : d.method = .post → d.call.body = some d.body
  gave : ∃ before left, before.calls = w.calls ∧ before.outcomes = w.outcomes ∧
    t.Gives d.call reply before left ∧ timing.Read w left
  inRange : 100 ≤ reply.status ∧ reply.status ≤ 999

theorem happened_of_execute {t : Transport ω} {d : Descriptor} {e : Execution}
    (h : (Executor.execute t.noted d).run w = (.ok e, after)) :
    Happened t d e.reply e.timing w after := by
  obtain ⟨before, noted, calls, outcomes, answered, read, kept⟩ := Executor.execute_eq_ok h
  obtain ⟨left, gave, rfl⟩ := Transport.gives_noted.mp answered
  exact {
    called := by rw [kept, calls]
    carried := fun post => by rw [Descriptor.call, post]
    gave := ⟨before, left, calls, outcomes, gave, read.start, read.stop, read.duration⟩
    inRange := e.reply.inRange }

section

variable [Runtime]

theorem perform_eq_ok {transport : Transport ω} (installed : s.transport = some transport)
    {d : Descriptor} {e : Execution} (h : (s.perform r).run w = (.ok (d, e), after)) :
    ∃ v, line r = .ok v ∧ Line.parse v = .ok d ∧
      (Executor.execute transport d).run w = (.ok e, after) := by
  obtain ⟨v, other, present, parsed, same, executed⟩ := exists_of_perform h
  cases installed.symm.trans same
  exact ⟨v, present, parsed, executed⟩

theorem hasStatus_of_run {status : Nat}
    (h : ((s.answer r).run w).1.toOption.map (·.status) = some status) :
    HasStatus s r w status := by
  obtain ⟨a, given, same⟩ := Option.map_eq_some_iff.mp h
  unfold HasStatus
  generalize (s.answer r).run w = outcome at given
  rcases outcome with ⟨failure | b, after⟩
  · cases given
  · cases given
    exact ⟨_, _, rfl, same⟩

theorem answer_eq_success (post : r.PostsLine) {a : Http.Answer}
    (h : (s.answer r).run w = (.ok a, after)) (success : a.status = 200) :
    ∃ d e t, (s.perform r).run w = (.ok (d, e), after) ∧ Envelope.write d e = .ok t ∧
      a.body = some t := by
  rw [answer_eq post, Action.run_map] at h
  have handled := handled_answerLine s r w
  generalize (s.answerLine r).run w = outcome at h handled
  cases handled with
  | reported performed written =>
    cases h
    exact ⟨_, _, _, performed, written, rfl⟩
  -- Failures are answered with status 400 or 500.
  | refused performed stays =>
    cases h
    exact absurd success (status_refusal _)
  | unwritable => cases h
  | escaped => cases h

theorem values_of_parse {v : Json} {d : Descriptor} (parsed : Line.parse v = .ok d) {reply : Reply}
    (plain : Values Json.plain d reply) (distinct : reply.data.Obeys Json.distinct) :
    Values (Json.distinct.and Json.plain) d reply := by
  have differ {u : Json} (tidy : u.Obeys Json.tidy) : u.Obeys Json.distinct :=
    tidy.mono (fun _ _ => trivial) (fun _ _ => trivial) (fun _ _ => trivial) (fun _ h => h)
  obtain ⟨headers, query, body⟩ := Line.tidy_of_parse parsed
  exact {
    headers := fun members held =>
      Json.obeys_and.mpr ⟨differ (headers members held), plain.headers members held⟩
    query := Json.obeys_and.mpr ⟨differ query, plain.query⟩
    body := Json.obeys_and.mpr ⟨differ body, plain.body⟩
    data := Json.obeys_and.mpr ⟨distinct, plain.data⟩ }

/-- A successful answer reads back as the report of what happened, but for the names of headers that
cannot be encoded. The objects of a reply have each key once, as those of a descriptor do. -/
theorem reports_what_happened {t : Transport ω} (installed : s.transport = some t.noted)
    (post : r.PostsLine) {a : Http.Answer} (h : (s.answer r).run w = (.ok a, after))
    (success : a.status = 200) :
    ∃ v d reply timing body, line r = .ok v ∧ Line.parse v = .ok d ∧
      Happened t d reply timing w after ∧ a.body = some body ∧
      (Values Json.plain d reply → reply.data.Obeys Json.distinct → ∀ dialect,
        Json.read dialect body =
          .ok (reportOf d.call (shownHeaders d.call.headers) d.query d.body reply timing) ∧
        (Json.read dialect body =
            .ok (reportOf d.call (handedHeaders d.call.headers) d.query d.body reply timing) ↔
          ∀ members, d.call.headers = some members →
            ∀ key ∈ Json.keys members, key.isEncodable = true)) := by
  obtain ⟨d, e, body, performed, written, same⟩ := answer_eq_success post h success
  obtain ⟨v, present, parsed, executed⟩ := perform_eq_ok installed performed
  refine ⟨v, d, e.reply, e.timing, body, present, parsed, happened_of_execute executed, same, ?_⟩
  intro plain distinct dialect
  obtain ⟨encodable, url⟩ := Line.encodable_of_parse parsed
  have sound := values_of_parse parsed plain distinct
  have read := Envelope.read_write sound encodable url written dialect
  -- The two reports differ in the headers only, and those have been read, so their names differ.
  have differ (members : Json.Members) (held : d.call.headers = some members) :
      (Json.keys members).Nodup := by
    rw [d.call_headers] at held
    exact ((Json.obeys_obj members).mp (sound.headers members held)).1.1
  refine ⟨read, ?_⟩
  rw [read, Except.ok.injEq, Envelope.reportOf_inj]
  exact Envelope.shownHeaders_eq_iff differ

end

theorem header_lost :
    let sent :=
      "\x7b\"reqline\": \"HTTP GET | URL x | HEADERS \x7b\\\"\\\\ud800\\\": 1, \\\"\\\\ud801\\\": 2\x7d\"\x7d"
    let s : Service Outcome := ⟨Text.ofString "*", some Transport.direct⟩
    let r : Http.Request := ⟨Text.ofString "POST", Text.ofString "/reqline", [], sent.toUTF8⟩
    let w : World Outcome := ⟨.ofList (.reply 200 .null) [], .ofList (.zero false) [],
      .ofList (.zero false) [], [], []⟩
    let headers : Json.Members := [([.lone 0], .int 1), ([.lone 1], .int 2)]
    let call : Call := ⟨.get, Text.ofString "x", none, some headers⟩
    let unreadable : Text := List.replicate 3 (.char (Char.ofNat 0xFFFD))
    ∃ a after body reply timing, (s.answer r).run w = (.ok a, after) ∧ a.status = 200 ∧
      after.calls = [call] ∧ a.body = some body ∧ ∀ dialect,
        Json.read dialect body =
          .ok (reportOf call (.obj [(unreadable, .int 2)]) [] (.obj []) reply timing) ∧
        Json.read dialect body ≠ .ok (reportOf call (.obj headers) [] (.obj []) reply timing) := by
  intro sent s r w headers call unreadable
  let text := Text.ofString "HTTP GET | URL x | HEADERS \x7b\"\\ud800\": 1, \"\\ud801\": 2\x7d"
  let asked : Descriptor :=
    ⟨.get, Text.ofString "x", some headers, [], .obj [], Text.ofString "x"⟩
  have decoded : Codec.utf8.decode? r.body = some (Text.ofString sent) := by decide +kernel
  have content : Json.read .lenient (Text.ofString sent) =
      .ok (.obj [(Text.ofString "reqline", .str text)]) := by
    simp only [sent, text]
    rfl
  have shallow (t : Text) (found : Codec.utf8.decode? r.body = some t) :
      Json.read .lenient t ≠ .error .tooDeep := by
    rw [← Option.some.inj (decoded.symm.trans found), content]
    exact nofun
  have asks : line r = .ok (.str text) := by
    rw [line_eq (c := .utf8) (by decide +kernel) rfl shallow, carried?_eq decoded content]
    rfl
  obtain ⟨a, after, h, success⟩ : HasStatus s r w 200 := hasStatus_of_run (by decide +kernel)
  obtain ⟨v, d, reply, timing, body, present, parsed, happened, same, reads⟩ :=
    reports_what_happened (congrArg some Transport.noted_direct.symm) ⟨rfl, rfl⟩ h success
  cases asks.symm.trans present
  have parsedSo : Line.parse (.str text) = .ok asked := by rfl
  cases parsedSo.symm.trans parsed
  obtain ⟨before, left, -, outcomes, gave, -⟩ := happened.gave
  have data : reply.data = .null := by
    rcases Transport.next_of_gives_direct gave with next | ⟨message, next⟩
    · rw [outcomes] at next
      exact (Outcome.reply.inj next).2.symm
    · rw [outcomes] at next
      cases next
  have plain : Values Json.plain asked reply := by
    have unpaired : ∀ key ∈ Json.keys headers, Json.Unpaired key := by decide
    have empty : Json.Obeys Json.plain (.obj []) := (Json.obeys_obj []).mpr ⟨nofun, nofun⟩
    refine ⟨fun members held => ?_, empty, empty, ?_⟩
    · cases held
      exact (Json.obeys_obj headers).mpr ⟨unpaired, by simp [headers, Json.plain]⟩
    · rw [data]
      trivial
  have reads := reads plain (by rw [data]; trivial)
  refine ⟨a, after, body, reply, timing, h, success, happened.called, same, fun dialect => ?_⟩
  refine ⟨(reads dialect).1, fun kept => ?_⟩
  have encodable := (reads dialect).2.mp kept headers rfl [.lone 0] (.head _)
  exact Bool.false_ne_true encodable

end RequestLine.Service
