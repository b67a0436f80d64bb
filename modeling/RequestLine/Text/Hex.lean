import RequestLine.Text

set_option autoImplicit false

namespace RequestLine.Hex

def digits (alphabet : Nat → Char) : Nat → Nat → List Char
  | 0, _ => []
  | width + 1, n => digits alphabet width (n / 16) ++ [alphabet (n % 16)]

def lowerDigit (n : Nat) : Char := Char.ofNat (if n < 10 then 48 + n else 87 + n)

def upperDigit (n : Nat) : Char := Char.ofNat (if n < 10 then 48 + n else 55 + n)

def lower (width n : Nat) : Text := (digits lowerDigit width n).map .char

def upper (width n : Nat) : Text := (digits upperDigit width n).map .char

def value? (c : Char) : Option Nat :=
  let n := c.toNat
  if 48 ≤ n ∧ n ≤ 57 then some (n - 48)
  else if 65 ≤ n ∧ n ≤ 70 then some (n - 55)
  else if 97 ≤ n ∧ n ≤ 102 then some (n - 87)
  else none

end RequestLine.Hex

namespace RequestLine.Symbol

def isHexDigit (s : Symbol) : Bool := (s.char?.bind Hex.value?).isSome

end RequestLine.Symbol

namespace RequestLine.Hex

def read? (t : Text) : Option Nat :=
  t.foldlM (fun n s => do
    let c ← s.char?
    let d ← value? c
    pure (16 * n + d)) 0

def unescape (mark : Char) (p : Nat → Bool) : Text → Text
  | s :: high :: low :: rest =>
    match if s = .char mark then read? [high, low] else none with
    | some n =>
      if p n then .ofCode n :: unescape mark p rest
      else s :: high :: low :: unescape mark p rest
    | none => s :: unescape mark p (high :: low :: rest)
  | t => t

end RequestLine.Hex
