import RequestLine.Proofs.Action
import RequestLine.Service

set_option autoImplicit false

namespace RequestLine

variable {ω α β : Type}

def World.Grown (author : String → Prop) (before after : World ω) : Prop :=
  ∃ entries, after.log = before.log ++ entries ∧ ∀ e ∈ entries, author e.source

namespace World.Grown

variable {author : String → Prop} {a b c : World ω}

theorem of_eq (same : b.log = a.log) : a.Grown author b :=
  ⟨[], by rw [same, List.append_nil], fun e h => absurd h List.not_mem_nil⟩

theorem trans (first : a.Grown author b) (later : b.Grown author c) : a.Grown author c := by
  obtain ⟨entries, written, own⟩ := first
  obtain ⟨more, writtenMore, ownMore⟩ := later
  refine ⟨entries ++ more, ?_, List.forall_mem_append.mpr ⟨own, ownMore⟩⟩
  rw [writtenMore, written, List.append_assoc]

end World.Grown

namespace Action

def Writes (author : String → Prop) (x : Action ω α) : Prop :=
  ∀ w : World ω, w.Grown author (x.run w).2

namespace Writes

variable {author : String → Prop} {x : Action ω α} {f : α → Action ω β}

theorem of_keeps (still : x.Keeps World.log) : x.Writes author := fun w => .of_eq (still w)

theorem pure (a : α) : (Pure.pure a : Action ω α).Writes author := of_keeps (.pure a)

theorem throw (failure : Failure) : (throw failure : Action ω α).Writes author :=
  of_keeps fun _ => rfl

theorem ofExcept (r : Except Failure α) : (Action.ofExcept r : Action ω α).Writes author :=
  of_keeps (.ofExcept r)

theorem log {source : String} (own : author source) (severity : Log.Severity) (message : Text) :
    (Action.log severity source message : Action ω Unit).Writes author := by
  intro w
  refine ⟨[⟨severity, source, message⟩], rfl, fun e h => ?_⟩
  cases List.mem_singleton.mp h
  exact own

theorem bind (first : x.Writes author) (later : ∀ a, (f a).Writes author) :
    (x >>= f).Writes author := by
  intro w
  have grown := first w
  rw [run_bind]
  generalize x.run w = outcome at grown ⊢
  obtain ⟨failure | a, mid⟩ := outcome
  · exact grown
  · exact grown.trans (later a mid)

theorem map (g : α → β) (h : x.Writes author) : (g <$> x).Writes author := by
  intro w
  rw [run_map]
  exact h w

theorem attempt (h : x.Writes author) : x.attempt.Writes author := h

theorem tryCatch {handler : Failure → Action ω α} (h : x.Writes author)
    (handled : ∀ failure, (handler failure).Writes author) :
    (tryCatch x handler).Writes author := by
  intro w
  have grown := h w
  rw [run_tryCatch]
  generalize x.run w = outcome at grown ⊢
  obtain ⟨failure | a, mid⟩ := outcome
  · exact grown.trans (handled failure mid)
  · exact grown

end Writes

end Action

theorem World.steps_authors {author : String → Prop} {actions : List (Action ω α)}
    (own : ∀ x ∈ actions, x.Writes author) {w : World ω} {step : Step α}
    (taken : step ∈ w.steps actions) : ∀ e ∈ step.log, author e.source := by
  obtain ⟨i, there⟩ := List.getElem?_of_mem taken
  obtain ⟨x, v, place, rfl⟩ := exists_step there
  obtain ⟨entries, written, own⟩ :=
    own x (List.mem_of_getElem? place) { v with calls := [], log := [] }
  have added : (v.step x).1.log = entries := written
  exact added ▸ own

section

variable {author : String → Prop}

theorem Transport.writes_session [Runtime] (own : author Transport.sessionSource)
    (timeout : Timeout)
    (call : Call) : (Transport.session timeout call).Writes author := by
  refine .bind (.ofExcept _) fun sent => .bind (.log own _ _) fun _ =>
    .bind (.of_keeps fun _ => rfl) fun _ => .bind (.of_keeps fun _ => rfl) fun exchange => ?_
  cases exchange with
  | failedSending s => exact .throw _
  | failedReading s => exact .throw _
  | reply status text =>
    refine .bind (.ofExcept _) fun data => .bind (.ofExcept _) fun reply =>
      .bind (.log own _ _) fun _ => ?_
    split
    · exact .throw _
    · exact .pure _

theorem Executor.writes_execute (own : author Executor.source) {t : Transport ω}
    (calls : ∀ call, (t call).Writes author) (d : Descriptor) :
    (Executor.execute t d).Writes author := by
  have answered : (Executor.answered t d).Writes author := by
    refine .tryCatch (calls _) fun failure => ?_
    split
    · exact .pure _
    · exact .bind (.log own _ _) fun _ => .throw _
    · exact .throw _
  exact .bind (.of_keeps fun _ => rfl) fun start => .bind (.of_keeps fun _ => rfl) fun wall =>
    .bind (.ofExcept _) fun stamp => .bind (.log own _ _) fun _ => .bind answered fun reply =>
    .bind (.of_keeps fun _ => rfl) fun stop => .bind (.of_keeps fun _ => rfl) fun wall =>
    .bind (.ofExcept _) fun stamp => .bind (.ofExcept _) fun duration =>
    .bind (.ofExcept _) fun timing => .bind (.log own _ _) fun _ => .pure _

namespace Service

variable {s : Service ω} (own : author Service.source) (executor : author Executor.source)
  (calls : ∀ t call, s.transport = some t → (t call).Writes author)

include executor calls in
theorem writes_perform [Runtime] (r : Http.Request) : (s.perform r).Writes author := by
  refine .bind (.ofExcept _) fun v => .bind (.ofExcept _) fun d => ?_
  split
  next => exact .throw _
  next t installed =>
    exact .bind (Executor.writes_execute executor (fun call => calls t call installed) d)
      fun e => .pure _

include own in
theorem writes_refuse (failure : Failure) :
    (refuse failure : Action ω Http.Answer).Writes author := by
  unfold refuse
  split
  · exact .bind (.log own _ _) fun _ => .pure _
  · split
    · exact .bind (.log own _ _) fun _ => .pure _
    · exact .throw _

theorem writes_succeed (d : Descriptor) (e : Execution) :
    (succeed d e : Action ω Http.Answer).Writes author := by
  unfold succeed
  split
  · exact .pure _
  · exact .throw _

include own executor calls in
theorem writes_answer [Runtime] (r : Http.Request) : (s.answer r).Writes author := by
  have line : (s.answerLine r).Writes author := by
    refine .bind (.attempt (writes_perform executor calls r)) fun result => ?_
    split
    · exact writes_refuse own _
    · exact writes_succeed _ _
  unfold answer
  split
  · exact .throw _
  · split
    · exact .pure _
    · unfold answerAt
      dsimp only
      split
      · split <;> exact .pure _
      · split
        · exact .pure _
        · split
          · exact .map _ line
          · exact .pure _

end Service

end

end RequestLine
