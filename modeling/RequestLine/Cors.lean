import RequestLine.Http
import RequestLine.Text.Printable
import RequestLine.Text.Split
import RequestLine.Text.Upper

set_option autoImplicit false

namespace RequestLine.Cors

def allows (configured origin : Text) : Bool :=
  configured == Text.ofString "*" || configured == origin

def credentials : Http.Headers := [("Access-Control-Allow-Credentials", "true")]

def grant (origin : Text) : Http.Headers := [("Access-Control-Allow-Origin", origin)]

def exposed : Http.Headers := [("Access-Control-Expose-Headers", "Content-Length,Date,Server")]

def headers (configured : Text) (r : Http.Request) : Http.Headers :=
  match r.header? "Origin" with
  | none => []
  | some origin => if allows configured origin then credentials ++ grant origin ++ exposed else []

inductive Refusal where
  | noOrigin
  | noMethod
  | method (name asking : Text)
  | origin (asking : Text)
  deriving DecidableEq, Repr

namespace Refusal

def reason : Refusal → Text
  | .noOrigin => "origin header is not specified in the request"
  | .noMethod => "'Access-Control-Request-Method' header is not specified"
  | .method name asking =>
    "request method " ++ name.quoted ++ " is not allowed for " ++ asking.quoted ++ " origin"
  | .origin asking => "origin '" ++ asking ++ "' is not allowed"

def answer (r : Refusal) : Http.Answer :=
  .plain 403 ("CORS preflight request failed: " ++ r.reason)

end Refusal

def headerNames (t : Text) : List Text :=
  let isPad (s : Symbol) : Bool := s == .char ' ' || s == .char '\t'
  let names := (Text.splitAt (.char ',') t).map fun name => (Text.trimBoth isPad name).upper
  ((names.filter (!·.isEmpty)).eraseDups).mergeSort Text.le

def allowedHeaders (r : Http.Request) : Http.Headers :=
  match headerNames ((r.header? "Access-Control-Request-Headers").getD []) with
  | [] => []
  | names => [("Access-Control-Allow-Headers", Text.join "," names)]

def allowedMethod (method : Text) : Http.Headers := [("Access-Control-Allow-Methods", method)]

def permit (origin method : Text) (r : Http.Request) : Http.Answer :=
  ⟨200, credentials ++ allowedHeaders r ++ allowedMethod method ++ grant origin, none⟩

def preflight (configured : Text) (methods : List Text) (r : Http.Request) :
    Except Refusal Http.Answer :=
  match r.header? "Origin", r.header? "Access-Control-Request-Method" with
  | none, _ => .error .noOrigin
  | some _, none => .error .noMethod
  | some origin, some method =>
    -- The method is looked at before the origin.
    if !methods.contains method then .error (.method method origin)
    else if !allows configured origin then .error (.origin origin)
    else .ok (permit origin method r)

end RequestLine.Cors
