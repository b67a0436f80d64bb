import RequestLine.Line
import RequestLine.Transport

set_option autoImplicit false

namespace RequestLine

structure Timing where
  duration : Nat
  start : Int
  stop : Int
  deriving DecidableEq, Repr

namespace Timing

def ofDuration (duration start stop : Int) : Checked Timing :=
  if duration < 0 then .error [⟨[Text.ofString "duration"], .tooSmall⟩]
  else .ok ⟨duration.toNat, start, stop⟩

def thousand : Double := .ofInt 1000

def stamp (wall : Double) : Except Failure Int :=
  (wall.mul thousand).truncate.mapError .reading

def elapsed (start stop : Double) : Except Failure Int :=
  ((stop.sub start).mul thousand).round.mapError .reading

end Timing

structure Execution where
  reply : Reply
  timing : Timing

namespace Executor

variable {ω : Type}

def source : String := "reqline.executor"

/-- A network failure that holds a reply counts as this reply. -/
def answered (transport : Transport ω) (d : Descriptor) : Action ω Reply :=
  tryCatch (transport d.call) fun
    | .network _ (some reply) => pure reply
    | .network message none => do
      Action.log .warning source ("Request to " ++ d.fullUrl ++ " failed: " ++ message)
      throw (.unreachable message)
    | failure => throw failure

def execute (transport : Transport ω) (d : Descriptor) : Action ω Execution := do
  -- A clock without a time stamp ends it all before anything is sent.
  let start ← Action.readMonotonic
  let startStamp ← Action.ofExcept (Timing.stamp (← Action.readWall))
  Action.log .debug source ("Executing " ++ d.method.name ++ " " ++ d.fullUrl)
  let reply ← answered transport d
  let stop ← Action.readMonotonic
  let stopStamp ← Action.ofExcept (Timing.stamp (← Action.readWall))
  let duration ← Action.ofExcept (Timing.elapsed start stop)
  let timing ← Action.ofChecked (Timing.ofDuration duration startStamp stopStamp)
  Action.log .info source
    (d.method.name ++ " " ++ d.fullUrl ++ " -> " ++ Text.ofInt reply.status ++ " in " ++
      Text.ofNat timing.duration ++ "ms")
  return ⟨reply, timing⟩

def run [Runtime] (transport : Transport ω) (line : Json) : Action ω Execution := do
  let d ← Action.ofExcept (Line.parse line)
  execute transport d

end Executor

end RequestLine
