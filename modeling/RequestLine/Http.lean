import RequestLine.Spelling
import RequestLine.Text.Hex
import RequestLine.Text.Split

set_option autoImplicit false

namespace RequestLine.Http

namespace Authority

def opening : Symbol := .char '['

def closing : Symbol := .char ']'

def colon : Symbol := .char ':'

def after (s : Symbol) (t : Text) : Text := (t.dropWhile (· != s)).drop 1

def isLaterAddress (t : Text) : Bool :=
  let version := t.takeWhile (·.isHexDigit)
  let rest := t.dropWhile (·.isHexDigit)
  !version.isEmpty && rest.head? == some (.char '.') && 1 < rest.length

def isAddress : Text → Bool
  | .char 'v' :: t => isLaterAddress t
  | t => t.contains colon

def isBracketed (t : Text) : Bool :=
  t.contains opening == t.contains closing &&
    (!t.contains opening || isAddress ((after opening t).takeWhile (· != closing)))

def withoutUser (t : Text) : Text := (t.reverse.takeWhile (· != .char '@')).reverse

def hostAndPort (t : Text) : Text × Text :=
  if t.contains opening then
    let inner := after opening t
    (inner.takeWhile (· != closing), after colon (after closing inner))
  else (t.takeWhile (· != colon), after colon t)

def port? (t : Text) : Option Int := do
  let (negative, unsigned) := Text.sign t.strip
  let digits ← Spelling.ungrouped? unsigned
  guard (!digits.isEmpty && digits.all Symbol.isDigit)
  return Double.signed negative (Numeral.natural (Text.digits digits))

def isPort (t : Text) : Bool := t.isEmpty || (port? t).any fun n => 0 ≤ n && n ≤ 65535

def needsHost (scheme : Text) : Bool :=
  ["http", "https", "ws", "wss", "ftp"].any fun name => Text.ofString name == scheme.lower

def isValid (scheme t : Text) : Bool :=
  let (host, port) := hostAndPort (withoutUser t)
  isBracketed t && isPort port && (!host.isEmpty || !needsHost scheme)

end Authority

namespace Target

def slash : Symbol := .char '/'

def clean (t : Text) : Text :=
  (t.dropWhile (·.code ≤ 0x20)).filter fun s => s.code != 0x09 && s.code != 0x0A && s.code != 0x0D

def isScheme (s : Symbol) : Bool := s.char?.any fun c => c.isAlphanum || "+-.".toList.contains c

def scheme (t : Text) : Text × Text :=
  match t.takeWhile isScheme, t.dropWhile isScheme with
  | s :: name, .char ':' :: rest => (s :: name, rest)
  | _, _ => ([], t)

def endsPath (s : Symbol) : Bool := s == .char '?' || s == .char '#'

def endsAuthority (s : Symbol) : Bool := s == slash || endsPath s

def authority : Text → Text × Text
  | .char '/' :: .char '/' :: t =>
    (t.takeWhile (!endsAuthority ·), t.dropWhile (!endsAuthority ·))
  | t => ([], t)

def isResolved (code : Nat) : Bool := code < 0x80 && code != 0x2F && code != 0x25

def resolve (done : List Text) : List Text → List Text
  | [] => done.reverse
  | [.char '.'] :: [] => ([] :: done).reverse
  | [.char '.', .char '.'] :: [] => ([] :: done.drop 1).reverse
  | [.char '.'] :: rest => resolve done rest
  | [.char '.', .char '.'] :: rest => resolve (done.drop 1) rest
  | segment :: rest => resolve (segment :: done) rest

def unescape (t : Text) : Text := (Hex.unescape '%' isResolved t).filter (!·.isLone)

def withoutDots : Text → Text
  | .char '/' :: t => slash :: Text.join "/" (resolve [] (Text.splitAt slash t))
  | t => t

def path? (t : Text) : Option Text :=
  let (name, t) := scheme (clean t)
  let (host, t) := authority t
  let path := unescape (t.takeWhile (!endsPath ·))
  -- Points in a path count only behind an authority.
  if host.isEmpty then some path
  else if Authority.isValid name host then some (withoutDots path)
  else none

end Target

abbrev Headers := List (Text × Text)

def header? (name : String) (headers : Headers) : Option Text :=
  (headers.find? fun h => h.1.lower == (Text.ofString name).lower).map (·.2)

structure Request where
  method : Text
  target : Text
  headers : Headers
  body : ByteArray

namespace Request

def path? (r : Request) : Option Text := Target.path? r.target

def header? (r : Request) (name : String) : Option Text := Http.header? name r.headers

end Request

structure Answer where
  status : Nat
  headers : Headers
  body : Option Text
  deriving DecidableEq

namespace Answer

def json (status : Nat) (body : Text) : Answer :=
  ⟨status, [("Content-Type", "application/json; charset=utf-8")], some body⟩

def plain (status : Nat) (body : Text) : Answer :=
  ⟨status, [("Content-Type", "text/plain; charset=utf-8")], some body⟩

end Answer

end RequestLine.Http
