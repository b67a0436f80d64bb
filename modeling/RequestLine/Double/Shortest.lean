import RequestLine.Double
import RequestLine.Text

set_option autoImplicit false

namespace RequestLine

structure Decimal where
  digits : Nat
  exponent : Int
  deriving DecidableEq, Repr

namespace Double

/-- A positive double between the midpoints to its two neighbours, in quarters of a unit. -/
structure Rounding where
  low : Nat
  middle : Nat
  high : Nat
  closed : Bool

def rounding (m p : Nat) : Rounding where
  -- Below a power of two the neighbour is half as far.
  low := (if m = 1 <<< 52 ∧ 0 < p then 4 * m - 1 else 4 * m - 2) <<< p
  middle := (4 * m) <<< p
  high := (4 * m + 2) <<< p
  closed := m % 2 == 0

namespace Rounding

def quarters : Nat := 4 * unit

def magnitude (r : Rounding) : Int :=
  if quarters ≤ r.middle then ((Nat.toDigits 10 (r.middle / quarters)).length : Int)
  else
    let reciprocal := (quarters + r.middle - 1) / r.middle
    1 - ((Nat.toDigits 10 (reciprocal - 1)).length : Int)

def onGrid (r : Rounding) (exponent : Int) : Option Nat :=
  let step := if 0 ≤ exponent then quarters * Nat.pow 10 exponent.toNat else quarters
  let scale := if 0 ≤ exponent then 1 else Nat.pow 10 (-exponent).toNat
  let value := r.middle * scale
  let below := value / step
  let above := below + 1
  let holds (c : Nat) : Bool :=
    if r.closed then decide (r.low * scale ≤ c * step) && decide (c * step ≤ r.high * scale)
    else decide (r.low * scale < c * step) && decide (c * step < r.high * scale)
  let down := value - below * step
  let up := above * step - value
  if holds below && (!holds above || down < up || (down = up && below % 2 == 0)) then some below
  else if holds above then some above
  else none

def shortest (r : Rounding) : Decimal :=
  let magnitude := r.magnitude
  -- Seventeen significant digits always suffice.
  let found := (List.range 17).findSome? fun i =>
    let exponent := magnitude - (i + 1 : Nat)
    (r.onGrid exponent).map fun c =>
      if c = Nat.pow 10 (i + 1) then (⟨1, magnitude⟩ : Decimal) else ⟨c, exponent⟩
  found.getD ⟨0, 0⟩

end Rounding

structure Names where
  nan : String
  infinity : String

def plainNames : Names := ⟨"nan", "inf"⟩

def layout (d : Decimal) : Text :=
  let digits : Text := Text.ofNat d.digits
  let count : Int := digits.length
  let point := count + d.exponent
  let zeros (n : Int) : Text := List.replicate n.toNat (.char '0')
  -- Positional from 0.0001 to below 10 ^ 16, always with a fraction.
  if -4 < point ∧ point ≤ 16 then
    if point ≤ 0 then "0." ++ zeros (-point) ++ digits
    else if count ≤ point then digits ++ zeros (point - count) ++ ".0"
    else digits.take point.toNat ++ (Symbol.char '.' :: digits.drop point.toNat)
  else
    let fraction : Text := if count = 1 then [] else .char '.' :: digits.drop 1
    let power := point - 1
    let sign : Symbol := if power < 0 then .char '-' else .char '+'
    let amount := Text.ofNat power.natAbs
    digits.take 1 ++ fraction ++
      (Symbol.char 'e' :: sign :: (zeros (2 - amount.length) ++ amount))

def magnitudeText (m p : Nat) : Text :=
  if m = 0 then "0.0" else layout (rounding m p).shortest

def withSign (negative : Bool) (t : Text) : Text := if negative then .char '-' :: t else t

def text (names : Names) : Double → Text
  | .finite negative m p _ => withSign negative (magnitudeText m p)
  | .infinite negative => withSign negative names.infinity
  | .nan => names.nan

end Double

end RequestLine
