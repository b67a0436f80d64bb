import RequestLine.Header
import RequestLine.Json.Reader
import RequestLine.World

set_option autoImplicit false

/-!
Transports: how a call becomes a reply. `Transport.direct` hands on what the target gives;
`Transport.session` sends over a client session, decodes the reply's text and reports an error
status as a network failure that holds the reply.
-/

namespace RequestLine

abbrev Transport (ω : Type) := Call → Action ω Reply

inductive Outcome where
  | reply (status : Int) (data : Json)
  | network (message : Text) (reply : Option (Int × Json))
  | raised (s : Signal)

/-- What a session's exchange comes to: a failure may come before or after the status. -/
inductive Exchange where
  | reply (status : Int) (text : Text)
  | failedSending (s : Signal)
  | failedReading (s : Signal)

inductive Timeout where
  | never
  | whole (seconds : Int)
  | seconds (x : Double)
  deriving DecidableEq

namespace Timeout

def text : Timeout → Text
  | .never => "None"
  | .whole n => Text.ofInt n
  | .seconds x => x.text Double.plainNames

end Timeout

namespace Body

def decode [Runtime] (t : Text) : Except Failure Json :=
  if t.isEmpty then .ok (.str [])
  else
    match Json.read .lenient t with
    | .ok v => .ok v
    | .error .malformed => .ok (.str t)
    | .error .tooDeep => .error .nestedTooDeep

end Body

namespace Signal

/-- A timeout, a broken connection and a value that cannot be sent are network failures, in this
order of precedence; any other failure stays what it is. -/
def refusal (timeout : Timeout) (s : Signal) : Failure :=
  if s.kind.isTimeout then .network ("timeout of " ++ timeout.text ++ "s exceeded") none
  else if s.kind.isConnection then
    .network (if s.text.isEmpty then Text.ofString s.kind.name else s.text) none
  else if s.kind.isValue then .network s.text none
  else .signal s

end Signal

namespace Transport

def direct : Transport Outcome := fun call => do
  Action.recordCall call
  match ← Action.nextOutcome with
  | .reply status data => Action.ofChecked (Reply.ofStatus status data)
  | .network message none => throw (.network message none)
  | .network message (some (status, data)) =>
    let reply ← Action.ofChecked (Reply.ofStatus status data)
    throw (.network message (some reply))
  | .raised s => throw (.signal s)

def sessionSource : String := "reqline.transport.aiohttp.transport"

def prepared [Runtime] (call : Call) : Except Failure Call := do
  let sent ← (Header.tryPrepare call.headers).mapError .unsendable
  return { call with headers := sent.map fun hs => hs.map fun h => (h.1, .str h.2) }

def accept [Runtime] (call : Call) (status : Int) (text : Text) : Action Exchange Reply := do
  let data ← Action.ofExcept (Body.decode text)
  let reply ← Action.ofChecked (Reply.ofStatus status data)
  Action.log .debug sessionSource
    ("Received " ++ Text.ofInt reply.status ++ " from " ++ call.url)
  if reply.isError then
    throw (.network ("Request failed with status code " ++ Text.ofInt reply.status) (some reply))
  else return reply

def session [Runtime] (timeout : Timeout) : Transport Exchange := fun call => do
  -- Not among the failures of the network: nothing has been sent yet.
  let sent ← Action.ofExcept (prepared call)
  Action.log .debug sessionSource ("Sending " ++ call.method.name ++ " " ++ call.url)
  Action.recordCall sent
  match ← Action.nextOutcome with
  | .failedSending s | .failedReading s => throw (s.refusal timeout)
  | .reply status text => accept call status text

end Transport

end RequestLine
