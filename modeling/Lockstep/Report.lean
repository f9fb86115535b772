import Lockstep.Fault

namespace Lockstep

/-- What a server process fails of. -/
inductive ServerFault where
  | service (fault : Fault)
  /-- The settings; the message and what caused it, nearest first. -/
  | settings (message : String) (causes : List String)
  | io (message : String)
  deriving DecidableEq, Repr

namespace ServerFault

def category : ServerFault → String
  | .service _ => "rendezvous error"
  | .settings _ _ => "configuration error"
  | .io _ => "i/o error"

def display : ServerFault → String
  | .service f => f.display
  | .settings message _ => "configuration error: " ++ message
  | .io message => "i/o error: " ++ message

/-- Everything behind the failure, nearest first. -/
def causes : ServerFault → List String
  | .service f => f.causes
  | .settings message causes => message :: causes
  | .io message => [message]

/-- The lines about the failure itself; a fault of the service shows its detail on a line of its own. -/
def errorLines : ServerFault → String
  | .service f => "error: " ++ f.summary ++ "\n" ++ (f.detail.map fun d => "detail: " ++ d ++ "\n").getD ""
  | e => "error: " ++ e.display ++ "\n"

/-- The numbered lines of the causes. -/
def causeLines (number : Nat) : List String → String
  | [] => ""
  | c :: rest => "cause " ++ toString number ++ ": " ++ c ++ "\n" ++ causeLines (number + 1) rest

/-- The variable that asks for backtraces. -/
def backtraceVariable : String := "RUST_BACKTRACE"

/-- The values of the variable that ask for them. -/
def wantsBacktrace (value : Option String) : Bool :=
  value = some "1" || value = some "full"

/-- The report for the terminal. -/
def report (e : ServerFault) (backtrace : Bool) : String :=
  "rendezvous server failed\ncategory: " ++ e.category ++ "\n" ++ e.errorLines ++ causeLines 1 e.causes ++
    if backtrace then "backtrace:\n" ++ Fault.backtrace ++ "\n" else ""

end ServerFault
end Lockstep
