import RequestLine.Text

set_option autoImplicit false

namespace RequestLine

namespace Symbol

def isSpace : Symbol → Bool
  | .lone _ => false
  | .char c =>
    let n := c.toNat
    (0x09 ≤ n && n ≤ 0x0D) || n == 0x20 || n == 0x85 || n == 0xA0 || n == 0x1680 ||
      (0x2000 ≤ n && n ≤ 0x200A) || n == 0x2028 || n == 0x2029 || n == 0x202F || n == 0x205F ||
      n == 0x3000

def isBlank (s : Symbol) : Bool := s.isSpace || (0x1C ≤ s.code && s.code ≤ 0x1F)

end Symbol

namespace Text

def trimBoth (p : Symbol → Bool) (t : Text) : Text :=
  (((t.dropWhile p).reverse).dropWhile p).reverse

def strip (t : Text) : Text := t.trimBoth Symbol.isBlank

def trim (t : Text) : Text := t.trimBoth Symbol.isSpace

/-- `done` and `part` hold the finished parts and the symbols of the current one, latest first. -/
def segmentsFrom (done : List Text) (part : Text) : Text → List Text
  | [] => (part.reverse :: done).reverse
  | .char ' ' :: .char '|' :: .char ' ' :: rest => segmentsFrom (part.reverse :: done) [] rest
  | s :: rest => segmentsFrom done (s :: part) rest

def segments (t : Text) : List Text := segmentsFrom [] [] t

def cut? (s : Symbol) (t : Text) : Option (Text × Text) :=
  match t.dropWhile (· != s) with
  | [] => none
  | _ :: rest => some (t.takeWhile (· != s), rest)

def extendFirst (s : Symbol) : List Text → List Text
  | [] => [[s]]
  | part :: more => (s :: part) :: more

def splitStep (separator s : Symbol) (parts : List Text) : List Text :=
  if s = separator then [] :: parts else extendFirst s parts

def splitAt (separator : Symbol) (t : Text) : List Text := t.foldr (splitStep separator) [[]]

end Text

end RequestLine
