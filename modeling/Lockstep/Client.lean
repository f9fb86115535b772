import Lockstep.Address
import Lockstep.ClientConfig
import Lockstep.Frame
import Lockstep.Message.Read
import Lockstep.Secret
import Lockstep.Text.Duration

/-!
# Workers

A worker opens a connection, shows the secret, and then calls the server: one
request is under way at a time, and the calls of one connection queue up for it
in order. A call owns the connection until it has its response, so a call that
is cancelled or fails closes the connection, and the server sees the worker
leave. An answer of the wrong kind is a fault of the call alone.
-/
namespace Lockstep.Client

/-! ### Calls -/

/-- A span of time, as callers have it. -/
structure Duration where
  nanoseconds : Nat
  deriving DecidableEq, Repr

namespace Duration

def ofMilliseconds (ms : Nat) : Duration :=
  ⟨ms * 1000000⟩

/-- What a request tells of a duration: its whole milliseconds, and no more of them than have 64 bits. -/
def milliseconds (d : Duration) : Nat :=
  min (d.nanoseconds / 1000000) Json.maxNatural

end Duration

inductive Call where
  | getBarrier (key : PartitionKey)
  | wait (handle : Handle) (timeout : Option Duration)
  | status (handle : Handle)
  /-- How many parties are blocked. -/
  | waiting (handle : Handle)
  | isBroken (handle : Handle)
  | abort (handle : Handle)
  | reset (handle : Handle)
  deriving DecidableEq, Repr

inductive Answer where
  | barrier (handle : Handle) (key : PartitionKey) (parties : Nat)
  | index (index : Nat)
  | status (status : Barrier.Status)
  | count (count : Nat)
  | truth (value : Bool)
  | done
  deriving DecidableEq, Repr

def Call.request : Call → Request
  | .getBarrier key => .getBarrier key
  | .wait h timeout => .wait h (timeout.map Duration.milliseconds)
  | .status h | .waiting h | .isBroken h => .status h
  | .abort h => .abort h
  | .reset h => .reset h

/-- A response of another kind than the request calls for. -/
def unexpected (r : Response) : Fault :=
  ⟨.protocolViolation, "Unexpected response from rendezvous server", some r.shown, []⟩

/-- What a response means to a call. -/
def Call.conclude (c : Call) (r : Response) : Except Fault Answer :=
  match c, r with
  | _, .error code message => .error (code.fault message)
  | .getBarrier key, .handle h parties => .ok (.barrier h key parties)
  | .wait _ _, .arrived index => .ok (.index index)
  | .status _, .status s => .ok (.status s)
  | .waiting _, .status s => .ok (.count s.waiting)
  | .isBroken _, .status s => .ok (.truth s.broken)
  | .abort _, .ok => .ok .done
  | .reset _, .ok => .ok .done
  | _, r => .error (unexpected r)

/-! ### The connection of a worker -/

/-- What came of waiting for a response. -/
inductive Heard where
  | response (response : Response)
  /-- The frame, or what was to be one, cannot be used. -/
  | fault (fault : Fault)
  | closed
  | nothing
  deriving DecidableEq, Repr

/-- A frame that holds no response. What the parser says of it is left out. -/
def unreadable : Fault :=
  .ofMalformed ""

/-- Listens for a response. -/
def hear (i : Frame.Inlet) : Heard × Frame.Inlet :=
  match i.next with
  | (.frame body, i) =>
    match Response.decode? body with
    | some r => (.response r, i)
    | none => (.fault unreadable, i)
  | (.failed failure, i) => (.fault failure.fault, i)
  | (.finished, i) => (.closed, i)
  | (.pending, i) => (.nothing, i)

/-- All that can be heard at one moment, at most so many things, up to the end of the stream. -/
def hearAll : Nat → Frame.Inlet → List Heard × Frame.Inlet
  | 0, i => ([], i)
  | count + 1, i =>
    match hear i with
    | (.nothing, i) => ([], i)
    | (.closed, i) => ([.closed], i)
    | (h, i) =>
      let (rest, i) := hearAll count i
      (h :: rest, i)

/-- How far a call has come. -/
inductive Stage where
  /-- It waits for the connection. -/
  | queued
  /-- It owns the connection and has not written its request. -/
  | sending
  /-- Its request is under way. -/
  | receiving
  deriving DecidableEq, Repr

/-- A call that is not finished. -/
structure Pending (Name : Type) where
  name : Name
  call : Call
  stage : Stage := .queued
  deriving DecidableEq, Repr

structure Channel (Name : Type) where
  /-- What every barrier of the server needs. -/
  parties : Nat
  inlet : Frame.Inlet
  /-- The server takes no more bytes. -/
  gone : Bool := false
  /-- No call was cancelled or failed while it owned the connection. -/
  usable : Bool := true
  /-- The calls that are not finished, in the order in which they were made: the first one owns the connection. -/
  calls : List (Pending Name) := []
  deriving DecidableEq, Repr

namespace Channel

variable {Name : Type} [DecidableEq Name]

/-- What one turn of a channel came to. -/
structure Moved (Name : Type) where
  channel : Channel Name
  written : Bytes := []
  finished : Option (Name × Call × Except Fault Answer) := none

/-- The fault of a call that finds the connection closed. -/
def closedBefore : Fault :=
  ⟨.connectionLost, "Connection is closed after a cancelled or failed request", none, []⟩

/-- The fault of a call whose connection the server closes. -/
def closedDuring (c : Call) : Fault :=
  ⟨.connectionLost, "Rendezvous server closed the connection",
    some ("while waiting for a `" ++ c.request.name ++ "` response"), []⟩

/-- The first call finishes and takes the connection with it. -/
def fail (c : Channel Name) (p : Pending Name) (rest : List (Pending Name)) (f : Fault) : Moved Name :=
  { channel := { c with usable := false, calls := rest }, finished := some (p.name, p.call, .error f) }

/-- The first call takes the connection, if there is one left. -/
def take (c : Channel Name) (p : Pending Name) (rest : List (Pending Name)) : Moved Name :=
  if c.usable then { channel := { c with calls := { p with stage := .sending } :: rest } }
  else c.fail p rest closedBefore

/-- The first call writes its request. -/
def write (c : Channel Name) (p : Pending Name) (rest : List (Pending Name)) : Moved Name :=
  match Frame.Outlet.send { gone := c.gone } p.call.request.encode with
  | (.error f, _) => c.fail p rest f
  | (.ok written, _) => { channel := { c with calls := { p with stage := .receiving } :: rest }, written }

/-- The first call listens for its response. -/
def listen (c : Channel Name) (p : Pending Name) (rest : List (Pending Name)) : Option (Moved Name) :=
  match hear c.inlet with
  | (.nothing, _) => none
  | (.response r, inlet) =>
    some { channel := { c with inlet, calls := rest }, finished := some (p.name, p.call, p.call.conclude r) }
  | (.fault f, inlet) => some ({ c with inlet }.fail p rest f)
  | (.closed, inlet) => some ({ c with inlet }.fail p rest (closedDuring p.call))

def turn (c : Channel Name) : Option (Moved Name) :=
  match c.calls with
  | [] => none
  | p :: rest =>
    match p.stage with
    | .queued => some (c.take p rest)
    | .sending => some (c.write p rest)
    | .receiving => c.listen p rest

def enqueue (c : Channel Name) (name : Name) (call : Call) : Channel Name :=
  { c with calls := c.calls ++ [{ name, call }] }

/-- A call is cancelled; if it owns the connection it takes it along. -/
def cancel (c : Channel Name) (name : Name) : Channel Name :=
  { c with
    usable := c.usable && !c.calls.any fun p => p.name = name && p.stage ≠ .queued
    calls := c.calls.filter (·.name ≠ name) }

def has (c : Channel Name) (name : Name) : Bool :=
  c.calls.any (·.name = name)

end Channel

/-! ### Connecting -/

structure Target where
  /-- Where to, as it was given. -/
  address : String
  secret : Secret
  /-- In milliseconds. -/
  timeout : Nat := 10000
  deriving DecidableEq

inductive TargetFailure where
  | invalid (violation : Settings.Violation)
  | unreadableSecret (why : Secret.Unreadable)
  deriving DecidableEq, Repr

def TargetFailure.fault : TargetFailure → Fault
  | .invalid v => ⟨.configError, "Invalid client configuration", none, [v.message]⟩
  | .unreadableSecret why => why.fault

/-- The target with the default timeout. -/
def Target.of (address secret : String) : Except TargetFailure Target :=
  match Secret.parse secret with
  | .ok secret => .ok { address, secret }
  | .error why => .error (.unreadableSecret why)

/-- The target that settings name. -/
def Target.ofConfig (c : ClientConfig) : Except TargetFailure Target :=
  match c.validate with
  | .error v => .error (.invalid v)
  | .ok () =>
    match Secret.parse c.secret with
    | .ok secret => .ok { address := c.address, secret, timeout := c.connectTimeout }
    | .error why => .error (.unreadableSecret why)

def refused : Fault :=
  .ofStream .other "Connection refused (os error 111)"

def Target.hello (t : Target) : Request :=
  .hello t.secret.toBase64

def Target.timedOut (t : Target) : Fault :=
  ⟨.ioError, "Timed out connecting to rendezvous server",
    some (t.address ++ " did not complete the handshake within " ++ Text.duration t.timeout), []⟩

/-- The fault of a server that closes the connection before it answers. -/
def closedInHandshake : Fault :=
  ⟨.connectionLost, "Rendezvous server closed the connection during the handshake", none, []⟩

/-- How many parties the first response tells, or what is wrong with it. -/
def welcomed : Response → Except Fault Nat
  | .welcome parties => .ok parties
  | .error code message => .error (code.fault message)
  | r => .error ⟨.protocolViolation, "Unexpected handshake response", some r.shown, []⟩

/-- A worker that has shown its secret and waits for the first response. -/
structure Handshake where
  target : Target
  deadline : Nat
  inlet : Frame.Inlet := {}
  deriving DecidableEq

/-- What came of the handshake, if anything did: the first response comes before the deadline. -/
def Handshake.turn {Name : Type} (h : Handshake) (now : Nat) : Option (Except Fault (Channel Name)) :=
  match hear h.inlet with
  | (.response r, inlet) =>
    some (match welcomed r with
      | .ok parties => .ok { parties, inlet }
      | .error f => .error f)
  | (.fault f, _) => some (.error f)
  | (.closed, _) => some (.error closedInHandshake)
  | (.nothing, _) => if h.deadline ≤ now then some (.error h.target.timedOut) else none

end Lockstep.Client
