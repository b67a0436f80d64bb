import RequestLine.Text.Split

set_option autoImplicit false

/-!
Structured header values: words, quoted strings and parameters with blanks and comments between
them. Reading is lenient: a malformed part is skipped, and only a `Fault` ends it.
-/

namespace RequestLine.Mime

inductive Fault where
  | incomplete
  | nestedTooDeep
  | mixedNumbers
  | notPlain
  | unreadable
  deriving DecidableEq, Repr

/-- Why a part is not there: it is malformed, or nothing can be read any further. -/
inductive Stop where
  | malformed
  | fault (f : Fault)

def sure {α : Type} : Except Fault α → Except Stop α
  | .ok a => .ok a
  | .error f => .error (.fault f)

def isSpace (s : Symbol) : Bool := s == .char ' ' || s == .char '\t'

def among (symbols : String) (s : Symbol) : Bool := s.char?.any symbols.toList.contains

def endsWord (s : Symbol) : Bool := isSpace s || among "()<>@,:;.\"[]\\" s

def isMisplaced (s : Symbol) : Bool := among ")<>@,:;[]\\" s

def endsToken (s : Symbol) : Bool := isSpace s || among "()<>@,:;\"[]\\/?=" s

def endsValue (s : Symbol) : Bool := endsToken s || among "*'" s

def endsName (s : Symbol) : Bool := endsValue s || s == .char '%'

def mark : Symbol := .char '"'

def backslash : Symbol := .char '\\'

def quote (t : Text) : Text :=
  mark :: (t.flatMap fun s => if s = mark ∨ s = backslash then [backslash, s] else [s]) ++ [mark]

end RequestLine.Mime
