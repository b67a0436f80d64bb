import RequestLine.Cors
import RequestLine.Envelope
import RequestLine.Json.Writer
import RequestLine.Mime.ContentType

set_option autoImplicit false

/-!
The service: `POST /reqline` parses and executes the request line of a JSON body, `GET /status`
says that the service is alive.
-/

namespace RequestLine

structure Service (ω : Type) where
  origin : Text
  transport : Option (Transport ω)

namespace Service

variable [Runtime] {ω : Type}

def source : String := "reqline.handlers"

def maxBody : Nat := 1048576

def charsetName? (r : Http.Request) : Except Mime.Fault (Option Text) :=
  match r.header? "Content-Type" with
  | none => .ok none
  | some header => Mime.ContentType.charset? header

/-- The text of the bytes in a charset; `none` when they are not in it. -/
def decode (name : Text) (body : ByteArray) : Except Failure (Option Text) :=
  -- Neither such a name nor the one for an empty body is ever looked up.
  if name.contains (.char '\x00') then .ok none
  else if body.isEmpty then .ok (some [])
  else
    match Runtime.codec? name with
    | none => .error .unknownCharset
    | some codec => .ok (codec.decode? body)

/-- The text of the body in the charset of the request, UTF-8 unless it names one; `none` when the
header or the bytes cannot be read. -/
def bodyText? (r : Http.Request) : Except Failure (Option Text) :=
  if maxBody < r.body.size then .error .bodyTooLarge
  else
    match charsetName? r with
    | .error .unreadable => .ok none
    | .error fault => .error (.header fault)
    | .ok none | .ok (some []) => .ok (Codec.utf8.decode? r.body)
    | .ok (some name) => decode name r.body

def payload (r : Http.Request) : Except Failure Json := do
  match ← bodyText? r with
  | none => return .null
  | some t =>
    match Json.read .lenient t with
    | .ok v => return v
    | .error .malformed => return .null
    | .error .tooDeep => throw .nestedTooDeep

def line (r : Http.Request) : Except Failure Json := do
  match (← payload r).members?.bind (Json.get? "reqline") with
  | some v => if v.isPresent then return v else throw .missingLine
  | none => throw .missingLine

def perform (s : Service ω) (r : Http.Request) : Action ω (Descriptor × Execution) := do
  let v ← Action.ofExcept (line r)
  let d ← Action.ofExcept (Line.parse v)
  match s.transport with
  | none => throw .noExecutor
  | some transport => return (d, ← Executor.execute transport d)

def refuse (failure : Failure) : Action ω Http.Answer :=
  match failure.report? with
  | some message => do
    Action.log .info source ("Rejected reqline: " ++ message)
    return .json 400 (Envelope.failed message).write
  | none =>
    if failure.isCaught then do
      Action.log .error source ("Reqline failed due to unexpected error: " ++ failure.description)
      return .json 500 (Envelope.failed "Internal server error").write
    else throw failure

def succeed (d : Descriptor) (e : Execution) : Action ω Http.Answer :=
  match Envelope.write d e with
  | .ok envelope => return .json 200 envelope
  | .error reason => throw (.unwritable reason)

/-- The answer is built after the failures have been caught, so it can still fail itself. -/
def answerLine (s : Service ω) (r : Http.Request) : Action ω Http.Answer := do
  match ← (s.perform r).attempt with
  | .error failure => refuse failure
  | .ok (d, e) => succeed d e

def status : Http.Answer := .json 200 (Json.record [("status", .str "ok")]).write

inductive Resource where
  | line
  | status
  deriving DecidableEq, Repr

namespace Resource

def path : Resource → String
  | .line => "/reqline"
  | .status => "/status"

def methods : Resource → List String
  | .line => ["POST"]
  | .status => ["GET", "HEAD"]

def ofPath? (path : Text) : Option Resource :=
  [Resource.line, .status].find? fun r => Text.ofString r.path == path

def allowed : Resource → String
  | .line => "OPTIONS,POST"
  | .status => "GET,HEAD,OPTIONS"

end Resource

def notFound : Http.Answer := .plain 404 "404: Not Found"

def methodNotAllowed (resource : Resource) : Http.Answer :=
  ⟨405, [("Allow", resource.allowed), ("Content-Type", "text/plain; charset=utf-8")],
    some "405: Method Not Allowed"⟩

def granted (s : Service ω) (r : Http.Request) (a : Http.Answer) : Http.Answer :=
  { a with headers := Cors.headers s.origin r ++ a.headers }

def answerAt (s : Service ω) (resource : Resource) (r : Http.Request) : Action ω Http.Answer :=
  let methods := resource.methods.map Text.ofString
  let method := r.method.upper
  if method = Text.ofString "OPTIONS" then
    match Cors.preflight s.origin methods r with
    | .ok a => return a
    | .error refusal => return refusal.answer
  else if !methods.contains method then return methodNotAllowed resource
  else
    match resource with
    | .line => s.granted r <$> s.answerLine r
    | .status => return s.granted r status

def answer (s : Service ω) (r : Http.Request) : Action ω Http.Answer :=
  match r.path? with
  | none => throw .invalidTarget
  | some path =>
    match Resource.ofPath? path with
    | none => return notFound
    | some resource => s.answerAt resource r

def serve (s : Service ω) (w : World ω) (requests : List Http.Request) :
    List (Step Http.Answer) :=
  w.steps (requests.map s.answer)

end Service

end RequestLine
