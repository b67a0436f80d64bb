set_option autoImplicit false

namespace RequestLine

/-- A Unicode scalar value, or a surrogate that stands alone. -/
inductive Symbol where
  | char (c : Char)
  | lone (half : Fin 2048)
  deriving DecidableEq, Repr

namespace Symbol

instance : Inhabited Symbol := ⟨.char ' '⟩

def code : Symbol → Nat
  | .char c => c.toNat
  | .lone half => 0xD800 + half

def ofCode (n : Nat) : Symbol :=
  if h : 0xD800 ≤ n ∧ n < 0xE000 then .lone ⟨n - 0xD800, by omega⟩ else .char (Char.ofNat n)

def char? : Symbol → Option Char
  | .char c => some c
  | .lone _ => none

def isLone : Symbol → Bool
  | .char _ => false
  | .lone _ => true

end Symbol

abbrev Text := List Symbol

namespace Text

def ofString (s : String) : Text := s.toList.map .char

instance : Coe String Text := ⟨ofString⟩

def ofNat (n : Nat) : Text := (Nat.toDigits 10 n).map .char

def ofInt (n : Int) : Text :=
  if n < 0 then .char '-' :: ofNat n.natAbs else ofNat n.natAbs

def maxDigits : Nat := 4300

def isEncodable (t : Text) : Bool := t.all (!·.isLone)

def toString? (t : Text) : Option String := (t.mapM Symbol.char?).map String.ofList

def utf8? (t : Text) : Option ByteArray := t.toString?.map String.toUTF8

def ofUtf8? (bytes : ByteArray) : Option Text := (String.fromUTF8? bytes).map ofString

def lower (t : Text) : Text :=
  t.map fun
    | .char c => .char c.toLower
    | s => s

def le (a b : Text) : Bool := !(b.map Symbol.code).lex (a.map Symbol.code) fun m n => m < n

def join (separator : String) (parts : List Text) : Text :=
  (ofString separator).intercalate parts

end Text

end RequestLine

namespace RequestLine.Surrogate

def isHigh (unit : Nat) : Bool := 0xD800 ≤ unit && unit < 0xDC00

def isLow (unit : Nat) : Bool := 0xDC00 ≤ unit && unit < 0xE000

def join (high low : Nat) : Nat := 0x10000 + (high - 0xD800) * 0x400 + (low - 0xDC00)

def high (code : Nat) : Nat := 0xD800 + (code - 0x10000) / 0x400

def low (code : Nat) : Nat := 0xDC00 + (code - 0x10000) % 0x400

end RequestLine.Surrogate
