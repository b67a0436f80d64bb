import RequestLine.Failure
import RequestLine.Json.Reader
import RequestLine.Text.Split

set_option autoImplicit false

/-!
Request lines: sections separated by " | ", first the method, then the url, then any number of
keyword sections with JSON values. `Line.parse` reports the first rule that a line breaks.
-/

namespace RequestLine.Line

variable [Runtime]

def methodLead : String := "HTTP "

def urlLead : String := "URL "

def remainder? (lead : String) (part : Text) : Option Text :=
  ((Text.ofString lead).isPrefixOf? part).map Text.strip

def parseMethod (part : Text) : Except Failure Method :=
  match remainder? methodLead part with
  | none => .error (.rejected .missingMethodKeyword)
  | some t =>
    match Method.ofText? t with
    | none => .error (.rejected .invalidMethod)
    | some m => .ok m

def parseUrl (part : Text) : Except Failure Text :=
  match remainder? urlLead part with
  | none => .error (.rejected .missingUrlKeyword)
  | some t => if t.isEmpty then .error (.rejected .emptyUrl) else .ok t

structure Values where
  headers : Option Json.Members := none
  query : Option Json.Members := none
  body : Option Json := none

namespace Values

def set (values : Values) : Keyword → Json → Option Values
  | .headers, v => v.members?.map fun ms => { values with headers := some ms }
  | .query, v => v.members?.map fun ms => { values with query := some ms }
  | .body, v => some { values with body := some v }

end Values

def parseSection (values : Values) (part : Text) : Except Failure Values :=
  match Text.cut? (.char ' ') part with
  | none => .error (.rejected .malformedSection)
  | some (name, value) =>
    match Keyword.ofText? name with
    | none => .error (.rejected (.unknownKeyword name))
    | some keyword =>
      match Json.read .strict value.strip with
      | .error .tooDeep => .error .nestedTooDeep
      | .error .malformed => .error (.rejected (.invalidJson keyword))
      | .ok v =>
        match values.set keyword v with
        | none => .error (.rejected (.invalidJson keyword))
        | some values => .ok values

def parseSections (values : Values) : List Text → Except Failure Values
  | [] => .ok values
  | part :: rest =>
    match parseSection values part with
    | .error failure => .error failure
    | .ok values => parseSections values rest

def describe (method : Method) (url : Text) (values : Values) : Except Failure Descriptor :=
  let query := values.query.getD []
  -- Of the two urls the one with the query is made first, so its fault comes first.
  match Query.extend url query with
  | .error .unencodable => .error (.rejected (.invalidJson .query))
  | .error fault => .error (.query fault)
  | .ok fullUrl =>
    let d : Descriptor := {
      method, url, query, fullUrl
      headers := values.headers
      body := values.body.getD (.obj []) }
    if d.issues.isEmpty then .ok d else .error (.invalid d.issues)

def parseText (t : Text) : Except Failure Descriptor :=
  if t.isEmpty then .error (.rejected .notText)
  else
    match t.segments with
    | first :: second :: rest => do
      let method ← parseMethod first
      let url ← parseUrl second
      let values ← parseSections {} rest
      describe method url values
    | _ => .error (.rejected .missingSection)

def parse : Json → Except Failure Descriptor
  | .str t => parseText t
  | _ => .error (.rejected .notText)

end RequestLine.Line
