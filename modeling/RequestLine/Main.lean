import RequestLine.Json.Writer
import RequestLine.Settings
import RequestLine.Text.Split

set_option autoImplicit false

namespace RequestLine.CommandLine

def assignment? (argument : String) : Option (Text × Text) :=
  Text.cut? (.char '=') argument

def settings (arguments : List String) : Checked Settings :=
  Settings.load ⟨[], arguments.filterMap assignment?⟩

def complaint (i : Issue) : String :=
  (i.location.toString?.getD "") ++ ": " ++ i.flaw.code

end RequestLine.CommandLine

open RequestLine in
def main (arguments : List String) : IO UInt32 := do
  match CommandLine.settings arguments with
  | .ok s =>
    IO.println (s.json.write.toString?.getD "")
    return 0
  | .error issues =>
    for i in issues do IO.eprintln (CommandLine.complaint i)
    return 1
