import RequestLine.Proofs.Envelope.Report
import RequestLine.Proofs.Execution
import RequestLine.Proofs.Line.Language
import RequestLine.Proofs.Query.Encodable
import RequestLine.Proofs.Service.Boundary

set_option autoImplicit false

namespace RequestLine

open Json (Obeys)

namespace Timing

theorem short_stamp {wall : Double} {n : Int} (h : stamp wall = .ok n) :
    Obeys Json.short (.int n) := Query.natAbs_truncate (mapError_eq_ok.mp h)

theorem short_elapsed {start stop : Double} {n : Int} (h : elapsed start stop = .ok n) :
    Obeys Json.short (.int n) := Query.natAbs_round (mapError_eq_ok.mp h)

end Timing

namespace Service

section

variable [Runtime] {ω : Type} {s : Service ω} {r : Http.Request} {w left : World ω}
  {d : Descriptor} {e : Execution}

theorem short_of_perform (h : (s.perform r).run w = (.ok (d, e), left)) :
    Envelope.Short d e.timing := by
  obtain ⟨v, transport, -, parsed, -, executed⟩ := exists_of_perform h
  obtain ⟨headers, query, body⟩ := Line.tidy_of_parse parsed
  obtain ⟨before, last, -, -, -, read, -⟩ := Executor.execute_eq_ok executed
  exact {
    query := Json.short_of_tidy query
    body := Json.short_of_tidy body
    headers := fun members held => Json.short_of_tidy (headers members held)
    duration := Timing.short_elapsed read.duration
    start := Timing.short_stamp read.start
    stop := Timing.short_stamp read.stop }

/-- The handler fails exactly if the call has come to a result that cannot be reported, or to a
failure that is not caught. A result cannot be reported if a value nests too deep, a key inside a
value cannot be encoded, or an integer of the reply is too long. Any other end is an answer, with
the report or with an error. -/
theorem answerLine_fails_iff (s : Service ω) (r : Http.Request) (w : World ω) :
    ((∃ failure left, (s.answerLine r).run w = (.error failure, left)) ↔
      (∃ d e left, (s.perform r).run w = (.ok (d, e), left) ∧
        ¬ (Envelope.Reportable d e.reply ∧ Obeys Json.short e.reply.data)) ∨
      ∃ failure left, (s.perform r).run w = (.error failure, left) ∧ failure.Escapes) ∧
    (∀ failure left, (s.answerLine r).run w = (.error failure, left) →
      (∃ reason, failure = .unwritable reason) ∨
        (s.perform r).run w = (.error failure, left) ∧ failure.Escapes) ∧
    ∀ a left, (s.answerLine r).run w = (.ok a, left) →
      (∃ d e t, (s.perform r).run w = (.ok (d, e), left) ∧ Envelope.write d e = .ok t ∧
        a = .json 200 t) ∨
      (∃ m, a = .json 400 (Envelope.failed m).write) ∨
      a = .json 500 (Envelope.failed "Internal server error").write := by
  have handled := handled_answerLine s r w
  generalize (s.answerLine r).run w = outcome at handled ⊢
  -- `simp` takes the outcomes apart as pairs only once `Id` is gone from their type.
  cases handled with
  | reported performed written =>
    have reportable := (Envelope.exists_write_iff (short_of_perform performed)).mp ⟨_, written⟩
    simp [Id, performed, written, reportable]
  | unwritable performed unwritten =>
    have unreportable := mt (Envelope.exists_write_iff (short_of_perform performed)).mpr
      (by simp [unwritten])
    simpa [Id, performed, unwritten] using not_and.mp unreportable
  | refused performed stays => simp [Id, performed, stays, refusal_cases]
  | escaped performed escapes => simp [Id, performed, escapes]

end

theorem unencodable_key_escapes :
    let sent :=
      "\x7b\"reqline\": \"HTTP POST | URL x | BODY \x7b\\\"\\\\ud800\\\": 1\x7d\"\x7d"
    let s : Service Outcome := ⟨Text.ofString "*", some Transport.direct⟩
    let r : Http.Request := ⟨Text.ofString "POST", Text.ofString "/reqline", [], sent.toUTF8⟩
    let w : World Outcome := ⟨.ofList (.reply 200 .null) [], .ofList (.zero false) [],
      .ofList (.zero false) [], [], []⟩
    (¬ ∃ a left, (s.answerLine r).run w = (.ok a, left)) ∧
      ((s.answerLine r).run w).2.calls.length = 1 := by
  intro sent s r w
  have run : ((s.answerLine r).run w).1.toOption.map (·.status) = none ∧
      ((s.answerLine r).run w).2.calls.length = 1 := by decide +kernel
  obtain ⟨unanswered, called⟩ := run
  refine ⟨?_, called⟩
  rintro ⟨a, left, h⟩
  rw [h] at unanswered
  cases unanswered

end Service

end RequestLine
