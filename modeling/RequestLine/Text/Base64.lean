import RequestLine.Text

set_option autoImplicit false

namespace RequestLine.Base64

def digit? (b : UInt8) : Option Nat :=
  let n := b.toNat
  if 65 ≤ n ∧ n ≤ 90 then some (n - 65)
  else if 97 ≤ n ∧ n ≤ 122 then some (n - 71)
  else if 48 ≤ n ∧ n ≤ 57 then some (n + 4)
  else if n = 43 then some 62
  else if n = 47 then some 63
  else none

structure Group where
  size : Nat := 0
  value : Nat := 0
  filling : Nat := 0

namespace Group

def push (g : Group) (digit : Nat) : List UInt8 × Group :=
  let value := 64 * g.value + digit
  match g.size with
  | 0 => ([], { size := 1, value })
  | 1 => ([(value / 16).toUInt8], { size := 2, value := value % 16 })
  | 2 => ([(value / 4).toUInt8], { size := 3, value := value % 4 })
  | _ => ([value.toUInt8], {})

def fill (g : Group) : Group := if 2 ≤ g.size then { g with filling := g.filling + 1 } else g

def isFull (g : Group) : Bool := 2 ≤ g.size && 4 ≤ g.size + g.filling

end Group

def decodeFrom (strict filled : Bool) (g : Group) : List UInt8 → Option (List UInt8)
  | [] => if g.size = 0 then some [] else none
  | b :: rest =>
    if b = 61 then
      if strict && g.size == 0 && !filled then none
      else if g.fill.isFull then if strict && !rest.isEmpty then none else some []
      else decodeFrom strict true g.fill rest
    else
      match digit? b with
      | none => if strict then none else decodeFrom strict filled g rest
      | some n =>
        if strict && filled then none
        else (decodeFrom strict filled (g.push n).2 rest).map ((g.push n).1 ++ ·)

def decode? (strict : Bool) (bytes : List UInt8) : Option (List UInt8) :=
  decodeFrom strict false {} bytes

def decodeLoose (bytes : List UInt8) : List UInt8 :=
  -- What cannot be read, however it is filled up, is taken as it is.
  let missing := List.replicate ((4 - bytes.length % 4) % 4) 61
  (((decode? true (bytes ++ missing)).or (decode? false bytes)).or
    (decode? false (bytes ++ [61, 61]))).getD bytes

end RequestLine.Base64
