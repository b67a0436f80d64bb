set_option autoImplicit false

namespace RequestLine

inductive Double where
  | finite (negative : Bool) (m p : Nat)
      (valid : m < 1 <<< 53 ∧ (1 <<< 52 ≤ m ∨ p = 0) ∧ p ≤ 2045)
  | infinite (negative : Bool)
  | nan
  deriving DecidableEq

namespace Double

inductive NotFinite where
  | nan
  | infinite
  deriving DecidableEq, Repr

/-- How many units of the least positive double make one. -/
def unit : Nat := 1 <<< 1074

def zero (negative : Bool) : Double := .finite negative 0 0 (by decide)

instance : Inhabited Double := ⟨zero false⟩

def roundHalfEven (a d : Nat) : Nat :=
  let q := a / d
  let r := 2 * (a % d)
  if r < d ∨ (r = d ∧ q % 2 = 0) then q else q + 1

def ofParts (negative : Bool) (m p : Nat) : Double :=
  if valid : m < 1 <<< 53 ∧ (1 <<< 52 ≤ m ∨ p = 0) ∧ p ≤ 2045 then .finite negative m p valid
  else .infinite negative

def ofQuotient (negative : Bool) (a d : Nat) : Double :=
  let p := (a / d).log2 - 52
  let m := roundHalfEven a (d <<< p)
  if m = 1 <<< 53 then ofParts negative (1 <<< 52) (p + 1) else ofParts negative m p

def ofInt (n : Int) : Double := ofQuotient (n < 0) (n.natAbs * unit) 1

def ofDecimal (negative : Bool) (digits : Nat) (exponent : Int) : Double :=
  -- Beyond the first two bounds the result no longer depends on the exponent.
  if digits = 0 then zero negative
  else if 400 < exponent then .infinite negative
  else if exponent < -(400 + digits.log2) then zero negative
  else if 0 ≤ exponent then ofQuotient negative (digits * Nat.pow 10 exponent.toNat * unit) 1
  else ofQuotient negative (digits * unit) (Nat.pow 10 (-exponent).toNat)

def signed (negative : Bool) (n : Nat) : Int := if negative then -(n : Int) else n

def units? : Double → Option Int
  | .finite negative m p _ => some (signed negative (m <<< p))
  | _ => none

def isFinite : Double → Bool
  | .finite .. => true
  | _ => false

def isZero : Double → Bool
  | .finite _ m _ _ => m == 0
  | _ => false

def negative : Double → Bool
  | .finite negative .. => negative
  | .infinite negative => negative
  | .nan => false

def ofUnits (zeroNegative : Bool) (n : Int) : Double :=
  if n = 0 then zero zeroNegative else ofQuotient (n < 0) n.natAbs 1

def sub (x y : Double) : Double :=
  match x, y with
  | .nan, _ | _, .nan => .nan
  | .infinite s, .infinite t => if s = t then .nan else .infinite s
  | .infinite s, _ => .infinite s
  | _, .infinite t => .infinite !t
  | x, y =>
    match x.units?, y.units? with
    | some a, some b => ofUnits (x.negative && !y.negative) (a - b)
    | _, _ => .nan

def mul (x y : Double) : Double :=
  match x, y with
  | .nan, _ | _, .nan => .nan
  | .finite s m p _, .finite t n q _ => ofQuotient (s != t) (m <<< p * n <<< q) unit
  | x, y => if x.isZero || y.isZero then .nan else .infinite (x.negative != y.negative)

def atLeast (x y : Double) : Bool :=
  match x, y with
  | .nan, _ | _, .nan => false
  | .infinite s, .infinite t => !s || t
  | .infinite s, _ => !s
  | _, .infinite t => t
  | x, y =>
    match x.units?, y.units? with
    | some a, some b => decide (b ≤ a)
    | _, _ => false

def truncate : Double → Except NotFinite Int
  | .finite negative m p _ => .ok (signed negative (m <<< p / unit))
  | .infinite _ => .error .infinite
  | .nan => .error .nan

def round : Double → Except NotFinite Int
  | .finite negative m p _ => .ok (signed negative (roundHalfEven (m <<< p) unit))
  | .infinite _ => .error .infinite
  | .nan => .error .nan

def floor : Double → Except NotFinite Int
  | .finite negative m p _ => .ok ((signed negative (m <<< p)).fdiv unit)
  | .infinite _ => .error .infinite
  | .nan => .error .nan

def isInteger : Double → Bool
  | .finite _ m p _ => m <<< p % unit == 0
  | _ => false

end Double

end RequestLine
