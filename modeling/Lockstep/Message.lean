import Lockstep.Barrier
import Lockstep.Key
import Lockstep.Text.Quoted

/-!
# Messages

What workers ask and what the server answers. A connection starts with one
`hello`; every later request has exactly one response, in order.
-/
namespace Lockstep

inductive Request where
  | hello (secret : String)
  | getBarrier (key : PartitionKey)
  /-- Blocks until the barrier releases or breaks. -/
  | wait (handle : Handle) (timeout : Option Nat)
  | status (handle : Handle)
  | abort (handle : Handle)
  | reset (handle : Handle)
  deriving DecidableEq, Repr

def Request.name : Request → String
  | .hello _ => "hello"
  | .getBarrier _ => "get_barrier"
  | .wait _ _ => "wait"
  | .status _ => "status"
  | .abort _ => "abort"
  | .reset _ => "reset"

/-- The kinds of failure that workers are told. -/
inductive Code where
  | authenticationFailed
  | barrierBroken
  | unknownHandle
  | protocolViolation
  /-- Everything else. -/
  | internal
  deriving DecidableEq, Repr

namespace Code

def all : List Code :=
  [.authenticationFailed, .barrierBroken, .unknownHandle, .protocolViolation, .internal]

def name : Code → String
  | .authenticationFailed => "authentication_failed"
  | .barrierBroken => "barrier_broken"
  | .unknownHandle => "unknown_handle"
  | .protocolViolation => "protocol_violation"
  | .internal => "internal"

def ofName? (name : String) : Option Code :=
  all.find? (·.name = name)

def kind : Code → Fault.Kind
  | .authenticationFailed => .authenticationFailed
  | .barrierBroken => .barrierBroken
  | .unknownHandle => .unknownHandle
  | .protocolViolation => .protocolViolation
  | .internal => .unknown

/-- The code under which a fault is told. -/
def ofKind : Fault.Kind → Code
  | .authenticationFailed | .invalidSecret => .authenticationFailed
  | .barrierBroken => .barrierBroken
  | .unknownHandle => .unknownHandle
  | .protocolViolation | .deserializationError => .protocolViolation
  | _ => .internal

/-- The fault that a worker reports when the server answers with an error. -/
def fault (c : Code) (message : String) : Fault :=
  ⟨c.kind, "Rendezvous server returned an error", some message, []⟩

end Code

inductive Response where
  /-- The connection is authenticated; every barrier has that many parties. -/
  | welcome (parties : Nat)
  | handle (handle : Handle) (parties : Nat)
  /-- The barrier released. -/
  | arrived (index : Nat)
  | status (status : Barrier.Status)
  | ok
  | error (code : Code) (message : String)
  deriving DecidableEq, Repr

namespace Response

def messageOf (f : Fault) : String :=
  match f.detail with
  | some detail => f.description ++ ": " ++ detail
  | none => f.description

/-- The error response that tells a fault. -/
def ofFault (f : Fault) : Response :=
  .error (.ofKind f.kind) (messageOf f)

end Response

/-- A variant with its named fields. -/
def shownFields (variant : String) (fields : List (String × String)) : String :=
  variant ++ " \x7b " ++ String.intercalate ", " (fields.map fun (name, value) => name ++ ": " ++ value) ++ " \x7d"

def shownTruth (b : Bool) : String :=
  if b then "true" else "false"

def Handle.shown (h : Handle) : String :=
  "HandleId(" ++ toString h ++ ")"

def PartitionKey.shown (k : PartitionKey) : String :=
  shownFields "PartitionKey" [("start", Text.quoted k.first), ("end", Text.quoted k.last)]

/-- A secret is never shown. -/
def shownCredential : String := "Credential([REDACTED])"

def Code.shown : Code → String
  | .authenticationFailed => "AuthenticationFailed"
  | .barrierBroken => "BarrierBroken"
  | .unknownHandle => "UnknownHandle"
  | .protocolViolation => "ProtocolViolation"
  | .internal => "Internal"

def AbandonPolicy.shown : AbandonPolicy → String
  | .breakGeneration => "Break"
  | .withdraw => "Withdraw"

def Request.shown : Request → String
  | .hello _ => shownFields "Hello" [("secret", shownCredential)]
  | .getBarrier k => shownFields "GetBarrier" [("key", k.shown)]
  | .wait h t =>
    shownFields "Wait" [("handle", Handle.shown h), ("timeout_ms", match t with
      | none => "None"
      | some t => "Some(" ++ toString t ++ ")")]
  | .status h => shownFields "Status" [("handle", Handle.shown h)]
  | .abort h => shownFields "Abort" [("handle", Handle.shown h)]
  | .reset h => shownFields "Reset" [("handle", Handle.shown h)]

def Response.shown : Response → String
  | .welcome n => shownFields "Welcome" [("parties", toString n)]
  | .handle h n => shownFields "Handle" [("handle", Handle.shown h), ("parties", toString n)]
  | .arrived i => shownFields "Arrived" [("index", toString i)]
  | .status s =>
    shownFields "Status" [("parties", toString s.parties), ("n_waiting", toString s.waiting),
      ("broken", shownTruth s.broken), ("generation", toString s.generation)]
  | .ok => "Ok"
  | .error c m => shownFields "Error" [("code", c.shown), ("message", Text.quoted m)]

end Lockstep
