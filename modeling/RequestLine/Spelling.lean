import RequestLine.Double.Numeral
import RequestLine.Text.Split

set_option autoImplicit false

namespace RequestLine.Spelling

inductive Fault where
  | malformed
  | tooLong
  deriving DecidableEq, Repr

def zero : Symbol := .char '0'

def underscore : Symbol := .char '_'

def minus : Text → Bool × Text
  | .char '-' :: rest => (true, rest)
  | t => (false, t)

def plain (t : Text) : Except Fault Int :=
  let (negative, unsigned) := minus t
  let run := Text.digits unsigned
  if unsigned = [zero] then .ok 0
  else if run.isEmpty || unsigned.head? == some zero then .error .malformed
  else if Text.maxDigits < (if negative then 1 else 0) + run.length then .error .tooLong
  else if run.length < unsigned.length then .error .malformed
  else .ok (Double.signed negative (Numeral.natural run))

def afterZeros (last : Symbol) : Text → Option Text
  | [] => some [last]
  | s :: rest =>
    if s = zero ∨ s = underscore then afterZeros s rest
    else if s = .char '.' then some (last :: s :: rest)
    else if s.isDigit || s == .char '-' then some (s :: rest)
    else none

def withoutZeros : Text → Option Text
  | [] => none
  | s :: rest =>
    if s = zero then afterZeros s rest
    else if s.isDigit || s == .char '-' then some (s :: rest)
    else none

def isZeroTail : Text → Bool
  | .char '.' :: zeros => !zeros.isEmpty && zeros.all (· == zero)
  | _ => false

def withoutFraction (t : Text) : Text :=
  if isZeroTail (t.dropWhile (· != .char '.')) then t.takeWhile (· != .char '.') else t

def hasDoubleUnderscore : Text → Bool
  | .char '_' :: .char '_' :: _ => true
  | _ :: rest => hasDoubleUnderscore rest
  | [] => false

/-- The text without its underscores, each of which has to stand alone and within. -/
def ungrouped? (t : Text) : Option Text :=
  if t.head? = some underscore ∨ t.getLast? = some underscore ∨ hasDoubleUnderscore t = true
  then none
  else some (t.filter (· != underscore))

def withoutPlus (t : Text) : Option Text :=
  match t.trim with
  | .char '+' :: .char '-' :: _ => none
  | .char '+' :: rest => some rest
  | t => some t

def withoutMinus (t : Text) : Option (Bool × Text) :=
  match minus t with
  | (true, .char '-' :: _) => none
  | found => some found

def tidied? (t : Text) : Option Text := do
  let (negative, unsigned) ← withoutMinus (← withoutPlus t)
  let short := withoutFraction (← withoutZeros unsigned)
  let digits := (ungrouped? short).getD short
  return if negative then .char '-' :: digits else digits

def integer (t : Text) : Except Fault Int :=
  -- Only a text that is plain from the start can be too long.
  match plain t, tidied? t with
  | .ok n, _ => .ok n
  | .error .tooLong, _ => .error .tooLong
  | .error .malformed, none => .error .malformed
  | .error .malformed, some t =>
    match plain t with
    | .ok n => .ok n
    | .error _ => .error .malformed

def double? (t : Text) : Option Double :=
  (Double.ofText? t.trim).or ((ungrouped? t).bind Double.ofText?)

end RequestLine.Spelling
