import RequestLine.Double
import RequestLine.Text

set_option autoImplicit false

namespace RequestLine

structure Numeral where
  negative : Bool
  whole : List Char
  fraction : List Char
  exponent : Int

namespace Numeral

def natural (digits : List Char) : Nat := Nat.ofDigitChars 10 digits 0

def double (n : Numeral) : Double :=
  .ofDecimal n.negative (natural (n.whole ++ n.fraction)) (n.exponent - n.fraction.length)

end Numeral

namespace Symbol

def isDigit : Symbol → Bool
  | .char c => c.isDigit
  | .lone _ => false

end Symbol

namespace Text

def digits (t : Text) : List Char := (t.takeWhile Symbol.isDigit).filterMap Symbol.char?

def afterDigits (t : Text) : Text := t.dropWhile Symbol.isDigit

def sign : Text → Bool × Text
  | .char '-' :: rest => (true, rest)
  | .char '+' :: rest => (false, rest)
  | t => (false, t)

def fractionPart : Text → List Char × Text
  | .char '.' :: rest => (digits rest, afterDigits rest)
  | t => ([], t)

def exponentPart : Text → Option Int
  | [] => some 0
  | .char c :: rest =>
    if c.toLower = 'e' then
      let (negative, amount) := sign rest
      if amount.isEmpty || !amount.all Symbol.isDigit then none
      else some (Double.signed negative (Numeral.natural (digits amount)))
    else none
  | _ => none

end Text

namespace Numeral

def ofUnsigned? (negative : Bool) (t : Text) : Option Numeral :=
  let whole := t.digits
  let (fraction, rest) := Text.fractionPart t.afterDigits
  if whole.isEmpty && fraction.isEmpty then none
  else (Text.exponentPart rest).map fun exponent => ⟨negative, whole, fraction, exponent⟩

end Numeral

def Double.ofText? (t : Text) : Option Double :=
  let (negative, t) := Text.sign t
  let name := t.lower
  if name = Text.ofString "inf" ∨ name = Text.ofString "infinity" then some (.infinite negative)
  else if name = Text.ofString "nan" then some .nan
  else (Numeral.ofUnsigned? negative t).map Numeral.double

end RequestLine
