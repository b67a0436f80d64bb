import RequestLine.Text

set_option autoImplicit false

namespace RequestLine

structure Calendar where
  year : Int
  month : Int
  day : Int
  hour : Int
  minute : Int
  second : Int
  deriving DecidableEq, Repr

namespace Calendar

def epoch : Int := 719468

def ofDays (days : Int) : Int × Int × Int :=
  -- Years are counted from March, so that a leap day is the last day of its year.
  let z := days + epoch
  let era := z.fdiv 146097
  let doe := z - era * 146097
  let yoe := (doe - doe / 1460 + doe / 36524 - doe / 146096) / 365
  let doy := doe - (365 * yoe + yoe / 4 - yoe / 100)
  let mp := (5 * doy + 2) / 153
  let month := if mp < 10 then mp + 3 else mp - 9
  (yoe + era * 400 + (if month ≤ 2 then 1 else 0), month, doy - (153 * mp + 2) / 5 + 1)

def ofSeconds (seconds : Int) : Calendar :=
  let days := seconds.fdiv 86400
  let rest := seconds - days * 86400
  let (year, month, day) := ofDays days
  ⟨year, month, day, rest / 3600, rest / 60 % 60, rest % 60⟩

inductive Fault where
  | tooManySeconds
  | noSuchYear
  | yearTooLate
  deriving DecidableEq, Repr

def ofSeconds? (seconds : Int) : Except Fault Calendar :=
  let time := ofSeconds seconds
  if seconds < -(1 <<< 63 : Nat) ∨ (1 <<< 63 : Nat) ≤ seconds then .error .tooManySeconds
  else if time.year - 1900 < -(1 <<< 31 : Nat) ∨ (1 <<< 31 : Nat) ≤ time.year - 1900 then
    .error .noSuchYear
  else if (1 <<< 31 : Nat) ≤ time.year then .error .yearTooLate
  else .ok time

def two (n : Int) : Text := if n < 10 then "0" ++ Text.ofInt n else Text.ofInt n

def text (c : Calendar) : Text :=
  Text.ofInt c.year ++ "-" ++ two c.month ++ "-" ++ two c.day ++ " " ++
    two c.hour ++ ":" ++ two c.minute ++ ":" ++ two c.second

end Calendar

end RequestLine
