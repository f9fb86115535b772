import Lockstep.Text.Blank
import Lockstep.Text.Lines

namespace Lockstep

inductive Fault.Kind where
  /-- The peer showed a wrong secret, or none. -/
  | authenticationFailed
  | invalidSecret
  /-- The generation that the caller belongs to was broken. -/
  | barrierBroken
  /-- Two barriers were seen for one key. -/
  | keyCreationRace
  /-- The peer went away while a request was open. -/
  | connectionLost
  /-- The peer sent a frame that is not valid at this point. -/
  | protocolViolation
  /-- A request named a handle that was not issued on its connection. -/
  | unknownHandle
  | ioError
  | serializationError
  | deserializationError
  | configError
  | unknown
  deriving DecidableEq, Repr

structure Fault where
  kind : Fault.Kind
  description : String
  detail : Option String := none
  /-- The texts of what caused the fault, nearest first. -/
  causes : List String := []
  deriving DecidableEq, Repr

namespace Fault

def Kind.name : Kind → String
  | .authenticationFailed => "AuthenticationFailed"
  | .invalidSecret => "InvalidSecret"
  | .barrierBroken => "BarrierBroken"
  | .keyCreationRace => "KeyCreationRace"
  | .connectionLost => "ConnectionLost"
  | .protocolViolation => "ProtocolViolation"
  | .unknownHandle => "UnknownHandle"
  | .ioError => "IoError"
  | .serializationError => "SerializationError"
  | .deserializationError => "DeserializationError"
  | .configError => "ConfigError"
  | .unknown => "Unknown"

def kinds : List Kind :=
  [.authenticationFailed, .invalidSecret, .barrierBroken, .keyCreationRace, .connectionLost, .protocolViolation,
    .unknownHandle, .ioError, .serializationError, .deserializationError, .configError, .unknown]

def Kind.ofName? (name : String) : Option Kind :=
  kinds.find? (·.name = name)

/-- The caller's generation failed: it was broken, or the connection that carried the wait was lost. -/
def isBrokenBarrier (f : Fault) : Bool :=
  f.kind = .barrierBroken || f.kind = .connectionLost

/-- Faults count as the same when their kinds are. -/
def same (f g : Fault) : Bool :=
  f.kind = g.kind

/-- Lines of a section of a shown fault, indented. -/
def indent (lines : List String) : String :=
  String.join (lines.map fun line => "\n    " ++ line)

/-- The section that shows the detail; a detail of blanks is shown as empty. -/
def detailSection (detail : String) : String :=
  if Text.isBlankText detail then "\n  Detail: <empty>" else "\n  Detail:" ++ indent (Text.lines detail)

/-- Where backtraces are not captured, this line stands in their place. -/
def backtrace : String := "disabled backtrace"

def summary (f : Fault) : String :=
  "[" ++ f.kind.name ++ "] " ++ f.description

/-- The fault in full; the place where it arose would follow the sign at the end of the first line. -/
def display (f : Fault) : String :=
  f.summary ++ " @" ++ (f.detail.map detailSection).getD "" ++ "\n  Backtrace:" ++ indent [backtrace]

/-- What an operation on a stream failed of. -/
inductive Stream where
  | connectionReset | connectionAborted | brokenPipe | unexpectedEof
  /-- Any other cause. -/
  | other
  deriving DecidableEq, Repr

/-- The peer is gone. -/
def Stream.isLost : Stream → Bool
  | .other => false
  | _ => true

/-- A failed operation on a stream: the connection is lost when the peer is gone. -/
def ofStream (cause : Stream) (text : String) : Fault :=
  if cause.isLost then ⟨.connectionLost, "connection lost", some text, [text]⟩
  else ⟨.ioError, "I/O operation failed", some text, [text]⟩

/-- A text or a message that is not what it should be. -/
def ofMalformed (text : String) : Fault :=
  ⟨.deserializationError, "JSON deserialization failed", some text, [text]⟩

/-- A message that could not be written out. -/
def ofUnwritable (text : String) : Fault :=
  ⟨.serializationError, "JSON serialization failed", some text, [text]⟩

end Fault
end Lockstep
