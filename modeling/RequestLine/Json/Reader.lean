import RequestLine.Double.Numeral
import RequestLine.Json
import RequestLine.Runtime
import RequestLine.Text.Hex

set_option autoImplicit false

namespace RequestLine.Json

inductive Dialect where
  | strict
  | lenient
  deriving DecidableEq, Repr

inductive Fault where
  | malformed
  | tooDeep
  deriving DecidableEq, Repr

abbrev Read (α : Type) := Except Fault (α × Text)

namespace Reader

def isBlank (s : Symbol) : Bool :=
  s == .char ' ' || s == .char '\t' || s == .char '\n' || s == .char '\r'

def skip (t : Text) : Text := t.dropWhile isBlank

/-- A piece of a string: a symbol, or a surrogate that was written as an escape. -/
inductive Piece where
  | whole (s : Symbol)
  | half (unit : Nat)

namespace Piece

def ofUnit (unit : Nat) : Piece :=
  if Surrogate.isHigh unit || Surrogate.isLow unit then .half unit
  else .whole (Symbol.ofCode unit)

def symbol : Piece → Symbol
  | .whole s => s
  | .half unit => Symbol.ofCode unit

def attach (p : Piece) (rest : List Piece) : List Piece :=
  match p, rest with
  | .half high, .half low :: more =>
    if Surrogate.isHigh high && Surrogate.isLow low then
      .whole (Symbol.ofCode (Surrogate.join high low)) :: more
    else .half high :: .half low :: more
  | p, rest => p :: rest

def text (pieces : List Piece) : Text := (pieces.foldr attach []).map symbol

end Piece

def escaped? : Symbol → Option Char
  | .char '"' => some '"'
  | .char '\\' => some '\\'
  | .char '/' => some '/'
  | .char 'b' => some '\x08'
  | .char 'f' => some '\x0c'
  | .char 'n' => some '\n'
  | .char 'r' => some '\r'
  | .char 't' => some '\t'
  | _ => none

def pieces (done : List Piece) : Text → Read (List Piece)
  | [] => .error .malformed
  | .char '"' :: rest => .ok (done.reverse, rest)
  | .char '\\' :: .char 'u' :: a :: b :: c :: d :: rest =>
    match Hex.read? [a, b, c, d] with
    | some unit => pieces (.ofUnit unit :: done) rest
    | none => .error .malformed
  | .char '\\' :: s :: rest =>
    match escaped? s with
    | some c => pieces (.whole (.char c) :: done) rest
    | none => .error .malformed
  | s :: rest =>
    if s.code < 0x20 ∨ s = .char '\\' then .error .malformed else pieces (.whole s :: done) rest

def string (t : Text) : Read Text := (pieces [] t).map fun (ps, rest) => (Piece.text ps, rest)

def wholePart : Text → List Char × Text
  | .char '0' :: rest => (['0'], rest)
  | t => (Text.digits t, Text.afterDigits t)

def fractionPart (t : Text) : Option (List Char × Text) :=
  match t with
  | .char '.' :: rest =>
    if (Text.digits rest).isEmpty then none else some (Text.digits rest, Text.afterDigits rest)
  | _ => none

def exponentPart (t : Text) : Option (Int × Text) :=
  match t with
  | .char c :: rest =>
    let (negative, amount) := Text.sign rest
    let digits := Text.digits amount
    if (c = 'e' ∨ c = 'E') ∧ digits ≠ [] then
      some (Double.signed negative (Numeral.natural digits), Text.afterDigits amount)
    else none
  | _ => none

def number (t : Text) : Read Json :=
  let (negative, t) := match t with
    | .char '-' :: rest => (true, rest)
    | t => (false, t)
  let (whole, t) := wholePart t
  if whole.isEmpty then .error .malformed
  else
    match fractionPart t with
    | some (fraction, t) =>
      let (exponent, t) := (exponentPart t).getD (0, t)
      .ok (.float (Numeral.double ⟨negative, whole, fraction, exponent⟩), t)
    | none =>
      match exponentPart t with
      | some (exponent, t) => .ok (.float (Numeral.double ⟨negative, whole, [], exponent⟩), t)
      | none =>
        if Text.maxDigits < whole.length then .error .malformed
        else .ok (.int (Double.signed negative (Numeral.natural whole)), t)

def words : List (String × Json) := [("null", .null), ("true", .bool true), ("false", .bool false)]

def constants : Dialect → List (String × Json)
  | .strict => []
  | .lenient => [("NaN", .float .nan), ("Infinity", .float (.infinite false)),
      ("-Infinity", .float (.infinite true))]

def word? (dialect : Dialect) (t : Text) : Option (Json × Text) :=
  (words ++ constants dialect).findSome? fun w =>
    ((Text.ofString w.1).isPrefixOf? t).map fun rest => (w.2, rest)

def scalar (dialect : Dialect) (t : Text) : Read Json :=
  match t with
  | .char '"' :: rest => (string rest).map fun (s, rest) => (.str s, rest)
  | t =>
    match word? dialect t with
    | some read => .ok read
    | none => number t

/-- Items with commas between them, up to `close`; every item takes at least one of `fuel`
symbols. -/
def items {α : Type} (item : Text → Read α) (close : Char) : Nat → List α → Text → Read (List α)
  | 0, _, _ => .error .malformed
  | fuel + 1, done, t =>
    match item t with
    | .error fault => .error fault
    | .ok (x, rest) =>
      match skip rest with
      | .char c :: rest =>
        if c = ',' then items item close fuel (x :: done) (skip rest)
        else if c = close then .ok ((x :: done).reverse, rest)
        else .error .malformed
      | _ => .error .malformed

def enclosed {α : Type} (item : Text → Read α) (close : Char) (fuel : Nat) (t : Text) :
    Read (List α) :=
  match skip t with
  | .char c :: rest =>
    if c = close then .ok ([], rest) else items item close fuel [] (.char c :: rest)
  | _ => .error .malformed

def member (item : Text → Read Json) (t : Text) : Read (Text × Json) :=
  match t with
  | .char '"' :: rest =>
    match string rest with
    | .error fault => .error fault
    | .ok (key, rest) =>
      match skip rest with
      | .char ':' :: rest => (item (skip rest)).map fun (v, rest) => ((key, v), rest)
      | _ => .error .malformed
  | _ => .error .malformed

/-- A value in which containers nest at most `depth` deep. -/
def value (dialect : Dialect) (fuel : Nat) : Nat → Text → Read Json
  | 0, t =>
    match t with
    | .char '[' :: _ | .char '\x7b' :: _ => .error .tooDeep
    | t => scalar dialect t
  | depth + 1, t =>
    match t with
    | .char '[' :: rest =>
      (enclosed (value dialect fuel depth) ']' fuel rest).map fun (vs, rest) => (.arr vs, rest)
    | .char '\x7b' :: rest =>
      (enclosed (member (value dialect fuel depth)) '\x7d' fuel rest).map fun (ms, rest) =>
        (.obj (collect ms), rest)
    | t => scalar dialect t

end Reader

def read [Runtime] (dialect : Dialect) (t : Text) : Except Fault Json :=
  match Reader.value dialect t.length Runtime.nesting (Reader.skip t) with
  | .error fault => .error fault
  | .ok (v, rest) => if Reader.skip rest = [] then .ok v else .error .malformed

end RequestLine.Json
