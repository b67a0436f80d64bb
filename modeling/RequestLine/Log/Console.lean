import RequestLine.Calendar
import RequestLine.Log
import RequestLine.Text.Split

set_option autoImplicit false

namespace RequestLine.Log

structure Record where
  name : Text
  level : Level
  line : Int
  message : Text
  function : Text
  seconds : Int

namespace Record

def padded (width : Nat) (t : Text) : Text := t ++ List.replicate (width - t.length) (.char ' ')

def text (r : Record) : Except Calendar.Fault Text :=
  (Calendar.ofSeconds? r.seconds).map fun time =>
    Text.join " | " [
      time.text,
      padded 8 r.level.text,
      Text.join ":" [r.name, r.function, Text.ofInt r.line],
      r.message]

end Record

structure Console where
  root : Level := Level.warning
  access : Level := Level.notSet
  attached : Bool := false
  deriving DecidableEq, Repr

namespace Console

def accessLog : Text := "aiohttp.access"

/-- Sets the levels and attaches the console; the access log follows the other level when its own
is null. A fault in the first level changes nothing, one in the second only the access log's. -/
def setUp (c : Console) (level access : Json) : Console × Option Level.Fault :=
  let followed := match access with
    | .null => level
    | access => access
  match Level.ofValue level, Level.ofValue followed with
  | .error fault, _ => (c, some fault)
  | .ok root, .error fault => ({ c with root, attached := true }, some fault)
  | .ok root, .ok access => (⟨root, access, true⟩, none)

def isUnder (name above : Text) : Bool :=
  name == above || (above ++ [Symbol.char '.']).isPrefixOf name

def effective (c : Console) (name : Text) : Level :=
  if isUnder name accessLog && c.access != Level.notSet then c.access else c.root

def isEnabled (c : Console) (r : Record) : Bool :=
  decide (Level.notSet < r.level) && decide (c.effective r.name ≤ r.level)

def lines (c : Console) (r : Record) : Except Calendar.Fault (List Text) :=
  if c.attached && c.isEnabled r then r.text.map ([·]) else .ok []

inductive Step where
  | setUp (level access : Json)
  | record (r : Record)

structure Outcome where
  console : Console
  lines : Option (List Text) := none
  fault : Option Level.Fault := none

def step (c : Console) : Step → Except Calendar.Fault Outcome
  | .setUp level access =>
    let (console, fault) := c.setUp level access
    .ok { console, fault }
  | .record r => (c.lines r).map fun lines => { console := c, lines := some lines }

def run (c : Console) : List Step → Except Calendar.Fault (List Outcome)
  | [] => .ok []
  | s :: rest => do
    let outcome ← c.step s
    return outcome :: (← run outcome.console rest)

end Console

end RequestLine.Log
