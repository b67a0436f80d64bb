import RequestLine.Log.Console
import RequestLine.Service
import RequestLine.Settings

set_option autoImplicit false

/-!
The server: it opens a client session, listens, and answers requests until something ends it. From
when it listens the session is closed however the run ends; a server that cannot listen ends at
once.
-/

namespace RequestLine

structure Session where
  timeout : Timeout
  isOpen : Bool
  deriving DecidableEq

namespace Session

def source : String := "reqline.transport.aiohttp.client"

def opened (timeout : Timeout) : Log.Entry :=
  ⟨.info, source, "Opened HTTP client session (timeout " ++ timeout.text ++ "s)"⟩

def closed : Log.Entry := ⟨.info, source, "Closed HTTP client session"⟩

def start (timeout : Timeout) : Session × List Log.Entry := (⟨timeout, true⟩, [opened timeout])

def close (s : Session) : Session × List Log.Entry :=
  if s.isOpen then ({ s with isOpen := false }, [closed]) else (s, [])

inductive Command where
  | start (timeout : Timeout)
  | close

def step (current : Option Session) : Command → Option Session × List Log.Entry
  | .start timeout => (some (start timeout).1, (start timeout).2)
  | .close =>
    match current with
    | none => (none, [])
    | some s => (some s.close.1, s.close.2)

def run (current : Option Session) : List Command → List (Option Session × List Log.Entry)
  | [] => []
  | command :: rest => step current command :: run (step current command).1 rest

end Session

namespace Server

inductive Event where
  | loopInstalled
  | listening (host : Text) (port : Port) (timeout : Timeout)
  | interrupted
  | cancelled
  | interruptPassedOn

inductive Fault where
  | invalid (issues : List Issue)
  | level (fault : Log.Level.Fault)
  | socket (message : Text)

inductive Cause where
  | interrupt
  | socket (message : Text)
  | raised (s : Signal)

structure Traffic where
  requests : List Http.Request
  world : World Exchange

def Traffic.none : Traffic :=
  let clock : Feed Double := .ofList (.zero false) []
  ⟨[], .ofList (.failedSending (.raised (.ofName "TimeoutError") .none)) [], clock, clock, [], []⟩

/-- How far a run comes, and what ends it there. -/
inductive Ending where
  | listening (cause : Cause)
  | waiting (traffic : Traffic) (cause : Cause)

namespace Ending

def interrupt : Ending := .waiting .none .interrupt

def socket (message : Text) : Ending := .listening (.socket message)

def cause : Ending → Cause
  | .listening cause | .waiting _ cause => cause

end Ending

structure Run where
  events : List Event := []
  log : List Log.Entry := []
  console : Log.Console := {}
  session : Option Session := none
  answers : List (Step Http.Answer) := []
  fault : Option Fault := none
  raised : Option Signal := none

abbrev Life := ExceptT Cause (StateM Run)

def source : String := "reqline.server"

def note (message : Text) : Log.Entry := ⟨.info, source, message⟩

def started (s : Settings) : Log.Entry :=
  note ("Reqline server started on http://" ++ s.host ++ ":" ++ Text.ofInt s.port.val)

def timeout (s : Settings) : Timeout := .seconds s.timeout.val

def application [Runtime] (s : Settings) : Service Exchange :=
  ⟨s.origin, some (.session (timeout s))⟩

namespace Life

variable {α : Type}

def emit (event : Event) : Life Unit := modify fun r => { r with events := r.events ++ [event] }

def record (entry : Log.Entry) : Life Unit := modify fun r => { r with log := r.log ++ [entry] }

def command (c : Session.Command) : Life Unit :=
  modify fun r =>
    let (session, entries) := Session.step r.session c
    { r with session, log := r.log ++ entries }

def endBy (cause : Cause) : Life α := do
  match cause with
  | .interrupt => emit .interrupted
  | .socket _ | .raised _ => pure ()
  throw cause

def listen (s : Settings) (ending : Ending) : Life (Traffic × Cause) := do
  emit (.listening s.host s.port (timeout s))
  match ending with
  | .listening cause => endBy cause
  | .waiting traffic cause => return (traffic, cause)

def answer [Runtime] (s : Settings) (traffic : Traffic) : Life Unit :=
  modify fun r =>
    let answers := (application s).serve traffic.world traffic.requests
    { r with answers, log := r.log ++ answers.flatMap (·.log) }

/-- However the stretch ends, the session is closed behind it. -/
def closing (stretch : Life α) : Life α := do
  try
    stretch
  finally
    record (note "Shutting down...")
    command .close

def whole [Runtime] (s : Settings) (ending : Ending) : Life Unit := do
  command (.start (timeout s))
  -- Nothing sees to it yet that the session is closed.
  let (traffic, cause) ← listen s ending
  record (started s)
  closing do
    answer s traffic
    endBy cause

end Life

def Run.endedBy (r : Run) : Cause → Run
  | .interrupt => { r with events := r.events ++ [.cancelled] }
  | .socket message => { r with fault := some (.socket message) }
  | .raised s => { r with raised := some s }

def serve [Runtime] (s : Settings) (ending : Ending) : Run :=
  match (Life.whole s ending).run {} with
  | (.ok (), run) => run
  | (.error cause, run) => run.endedBy cause

def start [Runtime] (environment : List (Text × Text)) (ending : Ending) : Run :=
  match Settings.load ⟨[], environment⟩ with
  | .error issues => { fault := some (.invalid issues) }
  | .ok s =>
    let run := serve s ending
    match ending.cause with
    | .interrupt => { run with events := run.events ++ [.interruptPassedOn] }
    | .socket _ | .raised _ => run

/-- The whole program: it installs its event loop, sets up the console and serves; an interrupt
ends it in good order. -/
def launch [Runtime] (environment : List (Text × Text)) (ending : Ending) : Run :=
  let begun : Run := { events := [.loopInstalled] }
  match Settings.load ⟨[], environment⟩ with
  | .error issues => { begun with fault := some (.invalid issues) }
  | .ok s =>
    match ({} : Log.Console).setUp (.str s.level) (.str s.accessLevel) with
    | (console, some fault) => { begun with console, fault := some (.level fault) }
    | (console, none) =>
      let run := serve s ending
      let farewell := match ending.cause with
        | .interrupt => [note "Server stopped by user"]
        | .socket _ | .raised _ => []
      { run with events := begun.events ++ run.events, log := run.log ++ farewell, console }

end Server

end RequestLine
