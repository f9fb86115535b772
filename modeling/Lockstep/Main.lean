import Lockstep.CommandLine

/-!
# The command

Reads the command line and the environment, and prints the settings that they
make for a server. What is wrong with them is told on the error output.
-/
namespace Lockstep

/-- What is between the zero bytes of a text. -/
def zeroSeparated : Bytes → List Bytes
  | [] => [[]]
  | b :: rest =>
    match zeroSeparated rest with
    | [] => []
    | part :: parts => if b = 0 then [] :: part :: parts else (b :: part) :: parts

/-- The variables in a table of the environment; what is no text is passed over. -/
def variablesOf (table : Bytes) : List (String × String) :=
  (zeroSeparated table).filterMap fun entry => do
    let (name, value) := CommandLine.splitEquals (← Text.ofBytes? entry).toList
    some (name, ← value)

/-- The variables of the process; where there is no table there are none. -/
def environment : IO (List (String × String)) := do
  try
    let table ← IO.FS.readBinFile "/proc/self/environ"
    return variablesOf table.data.toList
  catch _ => return []

/-- The flags, one a line. -/
def flagLines : String :=
  String.join (CommandLine.Flag.all.map fun f => "  --" ++ f.name ++ " <VALUE>\n")

/-- Why there are no settings, for the terminal. -/
def settingsFault : CommandLine.Failure → ServerFault
  | .load (.badOverride key) => .settings ("override of " ++ key) []
  | .load .unsuitable => .settings "the variables do not fit the settings" []
  | .invalid v => CommandLine.faultOf v

/-- Prints the settings of a server; fails with 1 if there are none, and with 2 if the command line is wrong. -/
def command (arguments : List String) : IO UInt32 := do
  match CommandLine.parse arguments with
  | .error .displayHelp =>
    IO.print flagLines
    return 0
  | .error .displayVersion =>
    IO.println "rendezvous-server"
    return 0
  | .error u =>
    IO.eprintln ("error: " ++ u.name)
    return 2
  | .ok a =>
    let entries ← environment
    match CommandLine.settings a entries with
    | .ok c =>
      IO.println c.written
      return 0
    | .error e =>
      let backtrace := (entries.find? (·.1 = ServerFault.backtraceVariable)).map (·.2)
      IO.eprint ((settingsFault e).report (ServerFault.wantsBacktrace backtrace))
      return 1

end Lockstep

def main (arguments : List String) : IO UInt32 :=
  Lockstep.command arguments
