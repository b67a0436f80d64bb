import RequestLine.Mime.Phrase
import RequestLine.Double.Numeral

set_option autoImplicit false

namespace RequestLine.Mime

/-- One section. A value of `none` is a quoted one that ends where it should begin. -/
structure Parameter where
  name : Text
  number : Nat := 0
  extended : Bool := false
  charset : Text := "us-ascii"
  value : Option Text := some []

namespace Parameter

variable [Runtime]

def apostrophe : Symbol := .char (Char.ofNat 39)

def gap (t : Text) : Except Stop (Text × Text) := sure (Mime.gap Runtime.comments t)

def run (ends : Symbol → Bool) (t : Text) : Except Stop (Text × Text) :=
  match t.takeWhile (!ends ·) with
  | [] => .error .malformed
  | found => .ok (found, t.dropWhile (!ends ·))

def expect (s : Symbol) : Text → Except Stop Text
  | [] => .error .malformed
  | first :: rest => if first = s then .ok rest else .error .malformed

def readName (t : Text) : Except Stop (Text × Text) := do
  let (_, t) ← gap t
  let (found, t) ← run endsName t
  let (_, t) ← gap t
  return (found.strip, t)

def readNumber (t : Text) : Except Stop (Option Nat × Text) :=
  let digits := Text.digits (t.drop 1)
  if t.head? ≠ some (.char '*') ∨ digits.isEmpty = true then .ok (none, t)
  else if Text.maxDigits < digits.length then .error (.fault .unreadable)
  else if (Text.afterDigits (t.drop 1)).isEmpty then .error .malformed
  else .ok (some (Numeral.natural digits), Text.afterDigits (t.drop 1))

def readStar : Text → Except Stop (Bool × Text)
  | [.char '*'] => .error (.fault .incomplete)
  | .char '*' :: t => .ok (true, t)
  | t => .ok (false, t)

/-- A quoted string or a run of symbols: what it says, and what it says as a charset, in which a gap
behind it counts as a blank. -/
def readValue (t : Text) : Except Stop ((Text × Text) × Text) := do
  let (_, t) ← gap t
  let (found, t) ← if t.head? = some mark then .ok (quoted (t.drop 1)) else run endsValue t
  let (blank, t) ← gap t
  return ((found, if blank.isEmpty then found else found ++ [.char ' ']), t)

def skipLanguage (t : Text) : Except Stop Text := do
  let t ← expect apostrophe t
  if t.isEmpty || t.head? == some apostrophe then return t.drop 1
  else
    let (_, t) ← run endsName t
    expect apostrophe t

def isExtended (number : Nat) (content : Text) : Except Stop Bool :=
  if number ≠ 0 then .ok (!content.isEmpty && !content.any endsValue)
  else if content.head? = some apostrophe then .ok true
  else (run endsName content).map fun (_, t) => t.head? == some apostrophe

def resolved : Nat → Text → Text
  | 0, _ => []
  | _, [] => []
  | fuel + 1, s :: t =>
    if isSpace s then .char ' ' :: resolved fuel (t.dropWhile Symbol.isBlank)
    else if s = mark then s :: resolved fuel t
    else (plainRun false (s :: t)).1 ++ resolved fuel (plainRun false (s :: t)).2

def withContent (p : Parameter) (content : Text) : Except Stop Parameter := do
  if p.number ≠ 0 then return { p with value := some content }
  else
    let charset := content.takeWhile (· != apostrophe)
    let t ← skipLanguage (content.dropWhile (· != apostrophe))
    return { p with
      charset := if charset.isEmpty then p.charset else charset
      value := if t.isEmpty then none else some (resolved (t.length + 1) t) }

/-- A value behind its charset and language, if it has them; without them it ends the header, or its
section is not the first of an extended value. -/
def withValue (p : Parameter) (t : Text) : Except Stop (Parameter × Text) := do
  if t.head? = some apostrophe then
    let ((value, _), t) ← readValue (← skipLanguage t)
    return ({ p with value := some value }, t)
  else
    let ((value, charset), t) ← readValue t
    let isWhole := (!p.extended || p.number != 0) && t.head? != some apostrophe
    if isWhole || t.isEmpty then return ({ p with value := some value }, t)
    else
      let ((value, _), t) ← readValue (← skipLanguage t)
      return ({ p with charset, value := some value }, t)

def read (t : Text) : Except Stop (Parameter × Text) := do
  let (name, t) ← readName t
  if t.isEmpty || t.head? == some (.char ';') then return ({ name }, t)
  else
    let (number, t) ← readNumber t
    let (extended, t) ← readStar t
    let (_, t) ← gap (← expect (.char '=') t)
    let p : Parameter := { name, number := number.getD 0, extended }
    if extended && t.head? == some mark then
      let (content, rest) := quoted (t.drop 1)
      let (_, rest) ← gap rest
      if ← isExtended p.number content then return (← p.withContent content, rest)
      else p.withValue t
    else p.withValue t

def readAllFrom : Nat → Text → Except Fault (List Parameter)
  | 0, _ => .ok []
  | _, [] => .ok []
  | fuel + 1, t =>
    match read t with
    | .ok (p, t) => do
      let (_, t) ← phrases Runtime.comments t
      return p :: (← readAllFrom fuel (t.drop 1))
    | .error .malformed => do
      let (_, t) ← phrases Runtime.comments t
      readAllFrom fuel (t.drop 1)
    | .error (.fault f) => .error f

def readAll (t : Text) : Except Fault (List Parameter) := readAllFrom (t.length + 1) t

def decoded (charset : Text) (bytes : List UInt8) : Except Fault Text :=
  if charset.contains (.char '\x00') then .error .unreadable
  else
    match ((Runtime.codec? charset).getD .ascii).decodeKeeping? bytes with
    | some t => .ok t
    | none => .error .unreadable

def text (charset : Text) (p : Parameter) : Except Fault Text :=
  match p.value with
  | none => .error .incomplete
  | some t =>
    if !p.extended then .ok t
    else
      match t.utf8? with
      | none => .ok (Hex.unescape '%' (fun _ => true) t)
      | some bytes =>
        let escaped := bytes.data.toList.map Charset.decodeByte
        decoded charset ((Hex.unescape '%' (fun _ => true) escaped).map (·.code.toUInt8))

def joined (charset : Text) (number : Nat) : List Parameter → Except Fault Text
  | [] => .ok []
  | p :: rest =>
    if p.number ≠ number ∧ p.extended = false then joined charset number rest
    else do
      let t ← p.text charset
      return t ++ (← joined charset (number + 1) rest)

def whole (sections : List Parameter) : Except Fault Text :=
  match sections.mergeSort fun p q => p.number ≤ q.number with
  | [] => .ok []
  | first :: rest =>
    let isRepeated := !first.extended && rest.head?.any (·.number == 0)
    joined first.charset 0 (if isRepeated then [first] else first :: rest)

def values (parameters : List Parameter) : Except Fault (List (Text × Text)) :=
  ((parameters.map name).eraseDups).mapM fun name =>
    (whole (parameters.filter (·.name == name))).map fun t => (name, t)

def write (p : Text × Text) : Text :=
  if p.2.isEmpty then p.1 else p.1 ++ .char '=' :: quote p.2

end Parameter

end RequestLine.Mime
