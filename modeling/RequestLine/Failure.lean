import RequestLine.Header
import RequestLine.Mime
import RequestLine.Rejection

set_option autoImplicit false

/-!
Failures: every way in which reading, sending or answering a request can end without a result. A
reported failure is told to the caller in its own words, the others only to the log.
-/

namespace RequestLine

structure Reply where
  status : Int
  data : Json
  inRange : 100 ≤ status ∧ status ≤ 999

namespace Reply

def ofStatus (status : Int) (data : Json) : Checked Reply :=
  if h : 100 ≤ status ∧ status ≤ 999 then .ok ⟨status, data, h⟩
  else
    let flaw := if status < 100 then Flaw.tooSmall else Flaw.tooLarge
    .error [⟨[Text.ofString "status"], flaw⟩]

def isError (r : Reply) : Bool := 400 ≤ r.status

end Reply

namespace Signal

/-- A class of foreign failures: what it counts as, and its words when it is raised without or
with a message. Cancellations, interrupts and exits get past whoever catches failures. -/
structure Kind where
  name : String
  isTimeout : Bool := false
  isConnection : Bool := false
  isValue : Bool := false
  isReported : Bool := false
  isExit : Bool := false
  quotes : Bool := false
  silent : String := ""
  deriving DecidableEq, Repr

namespace Kind

def all : List Kind := [
  { name := "TimeoutError", isTimeout := true },
  { name := "ServerTimeoutError", isTimeout := true, isConnection := true },
  { name := "ClientError", isConnection := true },
  { name := "ClientConnectionError", isConnection := true },
  { name := "ClientPayloadError", isConnection := true },
  { name := "ServerDisconnectedError", isConnection := true, silent := "Server disconnected" },
  { name := "InvalidURL", isConnection := true, isValue := true },
  { name := "ValueError", isValue := true },
  { name := "OSError" },
  { name := "RuntimeError" },
  { name := "KeyError", quotes := true },
  { name := "ReqlineError", isReported := true },
  { name := "TransportError", isReported := true },
  { name := "MissingFieldError", isReported := true },
  { name := "CancelledError", isExit := true },
  { name := "KeyboardInterrupt", isExit := true },
  { name := "SystemExit", isExit := true }]

def ofName (name : String) : Kind := (all.find? (·.name == name)).getD { name }

end Kind

end Signal

structure Signal where
  kind : Signal.Kind
  text : Text
  deriving DecidableEq, Repr

namespace Signal

def raised (kind : Kind) : Option Text → Signal
  | none => ⟨kind, kind.silent⟩
  | some message => ⟨kind, if kind.quotes then message.quoted else message⟩

end Signal

inductive Unwritable where
  | tooDeep
  | unencodableKey
  | tooManyDigits
  deriving DecidableEq, Repr

inductive Failure where
  | rejected (r : Rejection)
  | missingLine
  | unreachable (reason : Text)
  | network (message : Text) (reply : Option Reply)
  | signal (s : Signal)
  | invalid (issues : List Issue)
  | nestedTooDeep
  | query (fault : Query.Fault)
  | unsendable (fault : Header.Fault)
  | reading (reason : Double.NotFinite)
  | invalidTarget
  | bodyTooLarge
  | unknownCharset
  | header (fault : Mime.Fault)
  | noExecutor
  | unwritable (reason : Unwritable)

namespace Failure

def report? : Failure → Option Text
  | .rejected r => some r.message
  | .missingLine => some "Missing reqline in request body"
  | .unreachable reason => some ("Request failed: " ++ reason)
  | .signal s => if s.kind.isReported then some s.text else none
  | _ => none

def isCaught : Failure → Bool
  | .signal s => !s.kind.isExit
  | _ => true

def notFiniteName : Double.NotFinite → String
  | .nan => "ValueError"
  | .infinite => "OverflowError"

def headerName : Mime.Fault → String
  | .incomplete => "IndexError"
  | .nestedTooDeep => "RecursionError"
  | .mixedNumbers | .notPlain => "TypeError"
  | .unreadable => "ValueError"

def name : Failure → String
  | .rejected _ => "ReqlineParseError"
  | .missingLine => "MissingFieldError"
  | .unreachable _ => "TransportError"
  | .network _ _ => "NetworkError"
  | .signal s => s.kind.name
  | .invalid _ => "ValidationError"
  | .nestedTooDeep => "RecursionError"
  | .query .unencodable => "UnicodeEncodeError"
  | .query .tooManyDigits => "ValueError"
  | .query (.notFinite reason) => notFiniteName reason
  | .unsendable .tooDeep => "RecursionError"
  | .unsendable .tooManyDigits => "ValueError"
  | .reading reason => notFiniteName reason
  | .invalidTarget => "ValueError"
  | .bodyTooLarge => "HTTPRequestEntityTooLarge"
  | .unknownCharset => "LookupError"
  | .header fault => headerName fault
  | .noExecutor => "RuntimeError"
  | .unwritable .tooDeep => "ValueError"
  | .unwritable .unencodableKey => "UnicodeEncodeError"
  | .unwritable .tooManyDigits => "ValueError"

def description : Failure → Text
  | .signal s => s.text
  | .noExecutor => "Request executor is not initialized"
  | failure => "<" ++ failure.name ++ ">"

def ofChecked {α : Type} : Checked α → Except Failure α
  | .ok a => .ok a
  | .error issues => .error (.invalid issues)

end Failure

end RequestLine
