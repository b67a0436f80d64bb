import RequestLine.Text

set_option autoImplicit false

namespace RequestLine

inductive Charset where
  | utf8
  | ascii
  | latin1
  | utf16
  | utf16le
  | utf16be
  deriving DecidableEq, Repr

namespace Charset

def name : Charset → String
  | .utf8 => "utf_8"
  | .ascii => "ascii"
  | .latin1 => "latin_1"
  | .utf16 => "utf_16"
  | .utf16le => "utf_16_le"
  | .utf16be => "utf_16_be"

def aliases : Charset → List String
  | .utf8 => ["u8", "utf", "utf8", "utf8_ucs2", "utf8_ucs4", "cp65001"]
  | .ascii => ["646", "ansi_x3.4_1968", "ansi_x3_4_1968", "ansi_x3.4_1986", "cp367", "csascii",
      "ibm367", "iso646_us", "iso_646.irv_1991", "iso_ir_6", "us", "us_ascii"]
  | .latin1 => ["8859", "cp819", "csisolatin1", "ibm819", "iso8859", "iso8859_1", "iso_8859_1",
      "iso_8859_1_1987", "iso_ir_100", "l1", "latin", "latin1"]
  | .utf16 => ["u16", "utf16"]
  | .utf16le => ["unicodelittleunmarked", "utf_16le"]
  | .utf16be => ["unicodebigunmarked", "utf_16be"]

def all : List Charset := [.utf8, .ascii, .latin1, .utf16, .utf16le, .utf16be]

def counts : Symbol → Bool
  | .char c => c.isAlphanum || c == '.'
  | .lone _ => false

def keyFrom (gap started : Bool) : Text → Text
  | [] => []
  | s :: rest =>
    if !counts s then keyFrom true started rest
    else if gap && started then .char '_' :: s :: keyFrom false true rest
    else s :: keyFrom false true rest

def key (name : Text) : Text := (keyFrom false false name).lower

def answersTo (c : Charset) (key : Text) : Bool :=
  -- In an alias a point is as good as an underscore.
  let underscored := key.map fun s => if s = .char '.' then .char '_' else s
  Text.ofString c.name == key ||
    (c.aliases.map Text.ofString).any fun a => a == key || a == underscored

def ofName? (name : Text) : Option Charset := all.find? (·.answersTo (key name))

def littleEndian (first second : UInt8) : Nat := first.toNat + 256 * second.toNat

def bigEndian (first second : UInt8) : Nat := littleEndian second first

def unitsFrom (unit : UInt8 → UInt8 → Nat) (done : List Nat) : List UInt8 → Option (List Nat)
  | [] => some done.reverse
  | [_] => none
  | first :: second :: rest => unitsFrom unit (unit first second :: done) rest

def charactersFrom (done : Text) : List Nat → Option Text
  | [] => some done.reverse
  | [unit] =>
    if Surrogate.isHigh unit || Surrogate.isLow unit then none
    else some (.char (Char.ofNat unit) :: done).reverse
  | unit :: next :: rest =>
    if Surrogate.isHigh unit then
      if Surrogate.isLow next then
        charactersFrom (.char (Char.ofNat (Surrogate.join unit next)) :: done) rest
      else none
    else if Surrogate.isLow unit then none
    else charactersFrom (.char (Char.ofNat unit) :: done) (next :: rest)

def decodeUnits (unit : UInt8 → UInt8 → Nat) (bytes : List UInt8) : Option Text :=
  (unitsFrom unit [] bytes).bind (charactersFrom [])

def decodeMarked : List UInt8 → Option Text
  | 0xFF :: 0xFE :: rest => decodeUnits littleEndian rest
  | 0xFE :: 0xFF :: rest => decodeUnits bigEndian rest
  | bytes => decodeUnits littleEndian bytes

def decodeByte (b : UInt8) : Symbol := .char (Char.ofNat b.toNat)

def decode? (c : Charset) (bytes : ByteArray) : Option Text :=
  let list := bytes.data.toList
  match c with
  | .utf8 => Text.ofUtf8? bytes
  | .ascii => if list.all (· < 0x80) then some (list.map decodeByte) else none
  | .latin1 => some (list.map decodeByte)
  | .utf16 => decodeMarked list
  | .utf16le => decodeUnits littleEndian list
  | .utf16be => decodeUnits bigEndian list

def keepByte (b : UInt8) : Symbol :=
  if b < 0x80 then decodeByte b else .ofCode (0xDC00 + b.toNat)

/-- As `decode?`, but where single bytes are unreadable they are kept as they are. -/
def decodeKeeping? (c : Charset) (bytes : List UInt8) : Option Text :=
  match c.decode? ⟨bytes.toArray⟩, c with
  | some t, _ => some t
  | none, .utf8 | none, .ascii => some (bytes.map keepByte)
  | none, _ => none

theorem decode?_empty (c : Charset) : c.decode? .empty = some [] := by
  cases c <;> rfl

end Charset

/-- A way to read bytes as text: strictly, or with unreadable bytes kept as surrogates. -/
structure Codec where
  decode? : ByteArray → Option Text
  decodeKeeping? : List UInt8 → Option Text
  empty : decode? .empty = some []

def Charset.codec (c : Charset) : Codec := ⟨c.decode?, c.decodeKeeping?, c.decode?_empty⟩

namespace Codec

def utf8 : Codec := Charset.utf8.codec

def ascii : Codec := Charset.ascii.codec

end Codec

/-- What the process decides in which the service runs: how many containers it reads within each
other in a JSON text (`nesting`), how many values within each other it makes a text of (`display`),
how many comments it reads within each other behind or in front of the first semicolon of a header
(`comments`, `mediaComments`), and which codec it has under a name. -/
class Runtime where
  nesting : Nat
  display : Nat
  comments : Nat
  mediaComments : Nat
  codec? : Text → Option Codec
  enough : 400 < nesting

instance Runtime.standard : Runtime where
  nesting := 1000
  display := 1000
  comments := 460
  mediaComments := 230
  codec? name := (Charset.ofName? name).map Charset.codec
  enough := by decide

end RequestLine
