import RequestLine.Failure
import RequestLine.Log

set_option autoImplicit false

namespace RequestLine

/-- Values given one after the other, the next one at place `taken`. -/
structure Feed (α : Type) where
  value : Nat → α
  taken : Nat

namespace Feed

def ofList {α : Type} (whenEmpty : α) (values : List α) : Feed α :=
  ⟨fun n => values.getD (min n (values.length - 1)) whenEmpty, 0⟩

def next {α : Type} (f : Feed α) : α × Feed α := (f.value f.taken, { f with taken := f.taken + 1 })

end Feed

structure Call where
  method : Method
  url : Text
  body : Option Json
  headers : Option Json.Members

namespace Descriptor

def call (d : Descriptor) : Call :=
  match d.method with
  | .get => ⟨.get, d.fullUrl, none, d.headers⟩
  | .post => ⟨.post, d.fullUrl, some d.body, d.headers⟩

@[simp] theorem call_url (d : Descriptor) : d.call.url = d.fullUrl := by
  unfold call
  cases d.method <;> rfl

@[simp] theorem call_headers (d : Descriptor) : d.call.headers = d.headers := by
  unfold call
  cases d.method <;> rfl

end Descriptor

structure World (ω : Type) where
  outcomes : Feed ω
  monotonic : Feed Double
  wall : Feed Double
  calls : List Call
  log : List Log.Entry

abbrev Action (ω : Type) := ExceptT Failure (StateM (World ω))

namespace Action

variable {ω : Type}

def nextOutcome : Action ω ω :=
  modifyGet fun w => (w.outcomes.next.1, { w with outcomes := w.outcomes.next.2 })

def readMonotonic : Action ω Double :=
  modifyGet fun w => (w.monotonic.next.1, { w with monotonic := w.monotonic.next.2 })

def readWall : Action ω Double :=
  modifyGet fun w => (w.wall.next.1, { w with wall := w.wall.next.2 })

def recordCall (call : Call) : Action ω Unit :=
  modify fun w => { w with calls := w.calls ++ [call] }

def log (severity : Log.Severity) (source : String) (message : Text) : Action ω Unit :=
  modify fun w => { w with log := w.log ++ [⟨severity, source, message⟩] }

def ofExcept {α : Type} : Except Failure α → Action ω α
  | .ok a => pure a
  | .error failure => throw failure

def ofChecked {α : Type} (c : Checked α) : Action ω α := ofExcept (Failure.ofChecked c)

end Action

def Action.attempt {ω α : Type} (action : Action ω α) : Action ω (Except Failure α) :=
  ExceptT.mk (Except.ok <$> action.run)

structure Step (α : Type) where
  result : Except Failure α
  calls : List Call
  log : List Log.Entry

namespace World

variable {ω : Type} {α : Type}

def step (w : World ω) (action : Action ω α) : Step α × World ω :=
  let (result, after) := action.run { w with calls := [], log := [] }
  (⟨result, after.calls, after.log⟩, after)

def steps (w : World ω) : List (Action ω α) → List (Step α)
  | [] => []
  | action :: rest => (w.step action).1 :: (w.step action).2.steps rest

end World

end RequestLine
