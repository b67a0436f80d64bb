import RequestLine.Mime.Parameter

set_option autoImplicit false

namespace RequestLine.Mime.ContentType

variable [Runtime]

def isBreak (s : Symbol) : Bool := s == .char '\n' || s == .char '\r'

def unfold : Text → Text
  | [] => []
  | s :: rest =>
    if !isBreak s then s :: unfold rest
    else if s == .char '\r' && rest.head? == some (.char '\n') then unfold rest
    else if rest.head?.any isSpace then unfold rest
    else []

def line (header : Text) : Text := unfold (header.dropWhile isSpace)

def token (t : Text) : Except Stop (Text × Text) := do
  let (left, t) ← sure (gap Runtime.mediaComments t)
  let (found, t) ← Parameter.run endsToken t
  let (right, t) ← sure (gap Runtime.mediaComments t)
  return (left ++ found ++ right, t)

def media (t : Text) : Except Fault (Text × Text) :=
  match token t with
  | .error (.fault f) => .error f
  | .error .malformed => phrases Runtime.mediaComments t
  | .ok (main, .char '/' :: t) =>
    match token t with
    | .error (.fault f) => .error f
    | .error .malformed => after (main ++ [.char '/']) (phrases Runtime.mediaComments t)
    | .ok (sub, t) => after (main ++ .char '/' :: sub) (phrases Runtime.mediaComments t)
  | .ok (main, t) => after main (phrases Runtime.mediaComments t)

def writeParameters (values : List (Text × Text)) : Text :=
  match Text.join "; " (values.map Parameter.write) with
  | [] => []
  | written => .char ' ' :: written

def readable (t : Text) : Except Fault Text :=
  if t.all fun s => !s.isLone || (EncodedWord.byte? s).isSome then
    .ok (t.map fun s => if s.isLone then .char (Char.ofNat 0xFFFD) else s)
  else .error .unreadable

def plain (header : Text) : Except Fault Text := do
  let (written, t) ← media (line header)
  if t.isEmpty then readable written
  else
    let values ← Parameter.values (← Parameter.readAll (t.drop 1))
    readable (written ++ .char ';' :: writeParameters values)

/-- The parts between semicolons, but for those within quotation marks; a mark behind a backslash
does not count. -/
def parts (quoted escaped : Bool) : Text → List Text
  | [] => [[]]
  | s :: rest =>
    let isMark := s == mark && !escaped
    if s = .char ';' ∧ !quoted then [] :: parts false false rest
    else Text.extendFirst s (parts (quoted != isMark) (s == backslash) rest)

def unescape (s : Symbol) : Text → Text
  | first :: second :: rest =>
    if first = backslash ∧ second = s then s :: unescape s rest
    else first :: unescape s (second :: rest)
  | t => t

def unquote (t : Text) : Text :=
  match t with
  | .char '"' :: rest =>
    if rest.getLast? = some mark then unescape mark (unescape backslash rest.dropLast) else t
  | .char '<' :: rest => if rest.getLast? = some (.char '>') then rest.dropLast else t
  | t => t

def member (part : Text) : Text × Text :=
  match Text.cut? (.char '=') part with
  | some (name, value) => (name.strip.lower, unquote value.strip)
  | none => (part.strip, [])

structure Section where
  name : Text
  number : Option Nat
  value : Text
  isEncoded : Bool

namespace Section

def isName (s : Symbol) : Bool := s.char?.any fun c => c.isAlphanum || c == '_'

def ofMember? (m : Text × Text) : Option Section := do
  let name := m.1.takeWhile isName
  let isEncoded := m.1.getLast? == some (.char '*')
  match name, m.1.dropWhile isName with
  | [], _ => none
  | name, [.char '*'] => some ⟨name, none, m.2, isEncoded⟩
  | name, .char '*' :: rest =>
    let digits := Text.digits rest
    let tail := Text.afterDigits rest
    if digits.isEmpty || !(tail.isEmpty || tail == [.char '*']) then none
    else some ⟨name, some (Numeral.natural digits), m.2, isEncoded⟩
  | _, _ => none

def le (a b : Section) : Bool :=
  a.number.getD 0 < b.number.getD 0 ||
    (a.number.getD 0 == b.number.getD 0 && Text.le a.value b.value)

def isComparable (sections : List Section) : Bool :=
  sections.all (·.number.isSome) || sections.all (·.number.isNone)

def joined (sections : List Section) : Except Fault Text :=
  if sections.any (·.isEncoded) then .error .notPlain
  else .ok ((sections.mergeSort le).flatMap (·.value))

end Section

def lookup (name plain : Text) : Except Fault (Option Text) :=
  let members := ((parts false false plain).drop 1).map member
  let sections := members.filterMap Section.ofMember?
  -- The sections of every name are put in order, not only those of the one that is asked for.
  if !(sections.map (·.name)).eraseDups.all fun name =>
      Section.isComparable (sections.filter (·.name == name)) then .error .mixedNumbers
  else
    match sections.filter (·.name == name) with
    | [] => .ok ((members.reverse.find? (·.1 == name)).map (·.2))
    | found => (Section.joined found).map some

def charset? (header : Text) : Except Fault (Option Text) :=
  plain header >>= lookup "charset"

end RequestLine.Mime.ContentType
