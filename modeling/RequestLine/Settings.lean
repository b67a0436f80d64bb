import RequestLine.Check

set_option autoImplicit false

namespace RequestLine

abbrev Port := { n : Int // 1 ≤ n ∧ n ≤ 65535 }

def Port.check (v : Json) : Except Flaw Port := do
  let n ← Check.integer v
  if h : 1 ≤ n ∧ n ≤ 65535 then return ⟨n, h⟩
  else throw (if n < 1 then .tooSmall else .tooLarge)

abbrev RequestTimeout := { x : Double // x.atLeast (.ofInt 1) = true }

def RequestTimeout.check (v : Json) : Except Flaw RequestTimeout := do
  let x ← Check.number v
  if h : x.atLeast (.ofInt 1) = true then return ⟨x, h⟩ else throw .tooSmall

structure Settings where
  host : Text
  port : Port
  timeout : RequestTimeout
  level : Text
  accessLevel : Text
  origin : Text

namespace Settings

structure Sources where
  given : Json.Members
  environment : List (Text × Text)

namespace Sources

/-- Of the names that differ only in case the first counts. -/
def given? (s : Sources) (name : Text) : Option Json :=
  (s.given.find? fun m => m.1.lower == name).map (·.2)

def exported? (s : Sources) (name : Text) : Option Text :=
  (s.environment.reverse.find? fun v => v.1.lower == "reqline_" ++ name).map (·.2)

def value? (s : Sources) (name : Text) : Option Json :=
  (s.given? name).or ((s.exported? name).map .str)

def read {α : Type} (s : Sources) (name : String) (whenAbsent : α)
    (check : Json → Except Flaw α) : Checked α :=
  match s.value? name with
  | none => .ok whenAbsent
  | some v => Checked.named name (check v)

end Sources

def standard : Settings where
  host := "0.0.0.0"
  port := ⟨8080, by decide⟩
  timeout := ⟨.ofInt 30, by decide +kernel⟩
  level := "INFO"
  accessLevel := "INFO"
  origin := "*"

def load (s : Sources) : Checked Settings :=
  Settings.mk <$> s.read "host" standard.host Check.string
    <*> s.read "port" standard.port Port.check
    <*> s.read "request_timeout" standard.timeout RequestTimeout.check
    <*> s.read "log_level" standard.level Check.string
    <*> s.read "access_log_level" standard.accessLevel Check.string
    <*> s.read "cors_allow_origin" standard.origin Check.string

def json (s : Settings) : Json :=
  Json.record [("host", .str s.host), ("port", .int s.port.val),
    ("request_timeout", .float s.timeout.val), ("log_level", .str s.level),
    ("access_log_level", .str s.accessLevel), ("cors_allow_origin", .str s.origin)]

end Settings

end RequestLine
