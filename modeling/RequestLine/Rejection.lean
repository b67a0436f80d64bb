import RequestLine.Descriptor

set_option autoImplicit false

namespace RequestLine

inductive Keyword where
  | headers
  | query
  | body
  deriving DecidableEq, Repr

namespace Keyword

def all : List Keyword := [.headers, .query, .body]

def name : Keyword → String
  | .headers => "HEADERS"
  | .query => "QUERY"
  | .body => "BODY"

def ofText? (t : Text) : Option Keyword := all.find? fun k => Text.ofString k.name == t

end Keyword

inductive Rejection where
  | notText
  | missingSection
  | missingMethodKeyword
  | invalidMethod
  | missingUrlKeyword
  | emptyUrl
  | malformedSection
  | unknownKeyword (keyword : Text)
  | invalidJson (keyword : Keyword)
  deriving DecidableEq, Repr

namespace Rejection

def codes : List String := ["InvalidInput", "MissingSection", "MissingKeyword", "InvalidMethod",
  "EmptyUrl", "MalformedSection", "UnknownKeyword", "InvalidJson"]

def code : Rejection → String
  | .notText => "InvalidInput"
  | .missingSection => "MissingSection"
  | .missingMethodKeyword | .missingUrlKeyword => "MissingKeyword"
  | .invalidMethod => "InvalidMethod"
  | .emptyUrl => "EmptyUrl"
  | .malformedSection => "MalformedSection"
  | .unknownKeyword _ => "UnknownKeyword"
  | .invalidJson _ => "InvalidJson"

def listed (names : List String) : Text := Text.join ", " (names.map Text.ofString)

def message : Rejection → Text
  | .notText => "Reqline must be a string"
  | .missingSection => "Missing required HTTP or URL keyword"
  | .missingMethodKeyword => "Missing HTTP keyword"
  | .invalidMethod =>
    "Invalid HTTP method, only " ++ listed (Method.all.map Method.name) ++ " are allowed"
  | .missingUrlKeyword => "Missing required URL keyword"
  | .emptyUrl => "URL value cannot be empty"
  | .malformedSection => "Missing space after keyword"
  | .unknownKeyword keyword =>
    "Invalid keyword: " ++ keyword ++ ". Only " ++ listed (Keyword.all.map Keyword.name) ++
      " are allowed"
  | .invalidJson keyword => "Invalid JSON format in " ++ keyword.name ++ " section"

end Rejection

end RequestLine
