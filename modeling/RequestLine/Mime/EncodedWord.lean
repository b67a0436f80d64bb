import RequestLine.Mime
import RequestLine.Runtime
import RequestLine.Text.Base64
import RequestLine.Text.Hex
import RequestLine.Text.Split

set_option autoImplicit false

namespace RequestLine.Mime.EncodedWord

variable [Runtime]

def cutEnd? : Text → Option (Text × Text)
  | .char '?' :: .char '=' :: rest => some ([], rest)
  | s :: rest => (cutEnd? rest).map fun (before, after) => (s :: before, after)
  | [] => none

def beginsEscape (before after : Text) : Bool :=
  (after.take 2).length == 2 && (after.take 2).all Symbol.isHexDigit && before.count (.char '?') < 2

def inside? (t : Text) : Option (Text × Text) :=
  match cutEnd? t with
  | none => none
  | some (before, after) =>
    if beginsEscape before after then
      let (more, rest) := (cutEnd? after).getD (after, [])
      some (before ++ [.char '?', .char '='] ++ more, rest)
    else some (before, after)

def byte? (s : Symbol) : Option UInt8 :=
  if s.code < 0x80 then some s.code.toUInt8
  else if 0xDC80 ≤ s.code ∧ s.code < 0xDD00 then some (s.code - 0xDC00).toUInt8
  else none

def escaped (bytes : List UInt8) : List UInt8 :=
  let t : Text := bytes.map fun b => if b = 0x5F then .char ' ' else Charset.decodeByte b
  (Hex.unescape '=' (fun _ => true) t).map (·.code.toUInt8)

def coding? (name : Text) : Option (List UInt8 → List UInt8) :=
  if name.lower = [.char 'q'] then some escaped
  else if name.lower = [.char 'b'] then some Base64.decodeLoose
  else none

def codec? (name : Text) : Option Codec :=
  let name := name.takeWhile (· != .char '*')
  if name.contains (.char '\x00') then none else some ((Runtime.codec? name).getD .ascii)

def text? (inside : Text) : Option Text :=
  match Text.splitAt (.char '?') inside with
  | [charset, coding, t] => do
    let decode ← coding? coding
    let bytes ← t.mapM byte?
    (← codec? charset).decodeKeeping? (decode bytes)
  | _ => none

def read? : Text → Option (Text × Text)
  | .char '=' :: .char '?' :: t => do
    let (inside, rest) ← inside? t
    return (← text? inside, rest)
  | _ => none

end RequestLine.Mime.EncodedWord
