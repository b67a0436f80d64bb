import RequestLine.Check
import RequestLine.Query

set_option autoImplicit false

namespace RequestLine

inductive Method where
  | get
  | post
  deriving DecidableEq, Repr

namespace Method

def all : List Method := [.get, .post]

def name : Method → String
  | .get => "GET"
  | .post => "POST"

def ofText? (t : Text) : Option Method := all.find? fun m => Text.ofString m.name == t

end Method

structure Descriptor where
  method : Method
  url : Text
  headers : Option Json.Members
  query : Json.Members
  body : Json
  fullUrl : Text

namespace Descriptor

def issues (d : Descriptor) : List Issue :=
  [("url", d.url), ("full_url", d.fullUrl)].filterMap fun (name, t) =>
    match Check.longEnough 1 t with
    | .ok _ => none
    | .error flaw => some ⟨[Text.ofString name], flaw⟩

end Descriptor

end RequestLine
