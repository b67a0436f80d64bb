import RequestLine.Double.Shortest
import RequestLine.Json
import RequestLine.Text.Hex

set_option autoImplicit false

namespace RequestLine.Json

namespace Writer

def doubleNames : Double.Names := ⟨"NaN", "Infinity"⟩

def unitEscape (unit : Nat) : Text := .char '\\' :: .char 'u' :: Hex.lower 4 unit

def shortEscape? : Symbol → Option Char
  | .char '"' => some '"'
  | .char '\\' => some '\\'
  | .char '\n' => some 'n'
  | .char '\r' => some 'r'
  | .char '\t' => some 't'
  | .char '\x0c' => some 'f'
  | .char '\x08' => some 'b'
  | _ => none

def symbol (s : Symbol) : Text :=
  match shortEscape? s with
  | some c => [.char '\\', .char c]
  | none =>
    if 0x20 ≤ s.code ∧ s.code < 0x7F then [s]
    else if s.code < 0x10000 then unitEscape s.code
    else unitEscape (Surrogate.high s.code) ++ unitEscape (Surrogate.low s.code)

def string (t : Text) : Text := .char '"' :: (t.flatMap symbol ++ [.char '"'])

def algebra : Algebra Text where
  null := "null"
  bool b := if b then "true" else "false"
  int := Text.ofInt
  float := Double.text doubleNames
  str := string
  arr parts := .char '[' :: (Text.join ", " parts ++ [.char ']'])
  obj parts :=
    let members := parts.map fun m => string m.1 ++ Text.ofString ": " ++ m.2
    .char '\x7b' :: (Text.join ", " members ++ [.char '\x7d'])

end Writer

def write (v : Json) : Text := v.fold Writer.algebra

end RequestLine.Json
