import Lockstep.Address
import Lockstep.Message.Complaint
import Lockstep.Session

/-!
# The server

A server owns its service and the connections that it accepted. Its connections
take turns; what one of them does to a barrier the others see at their next
turn. The clock moves only when it is told to.
-/
namespace Lockstep

/-- The server's end of a connection. -/
structure Line where
  session : Session
  /-- Bytes that were written and not received yet. -/
  outgoing : Bytes := []

structure Server where
  service : Service
  address : Address
  now : Nat := 0
  lines : Array Line := #[]
  /-- New connections are accepted. -/
  running : Bool := true
  meter : Meter := {}
  /-- The connections that ended, in the order in which they did. -/
  log : List (Nat × Session.Ending) := []

namespace Server

/-! ### Binding -/

inductive BindFailure where
  | invalid (violation : Settings.Violation)
  /-- The text to bind to is no address. -/
  | noAddress
  deriving DecidableEq, Repr

/-- The fault of a text that is no address. -/
def noAddress : Fault :=
  .ofStream .other "invalid socket address"

def BindFailure.fault : BindFailure → Fault
  | .invalid v => ⟨.configError, "Invalid server configuration", none, [v.message]⟩
  | .noAddress => Server.noAddress

/-- The port that is taken when any one will do. -/
def anyPort : Nat := 49152

/-- The address that is bound for one that was asked for. -/
def bound : Address → Address
  | .v4 a b c d port => .v4 a b c d (if port = 0 then anyPort else port)
  | .v6 groups zone port => .v6 groups zone (if port = 0 then anyPort else port)

def bind (config : ServerConfig) (secret : Secret) : Except BindFailure Server :=
  match config.validate with
  | .error v => .error (.invalid v)
  | .ok () =>
    match Address.parse? config.bindAddress with
    | none => .error .noAddress
    | some address => .ok { service := .new config secret Request.complaint, address := bound address }

/-! ### What peers do -/

def modifySession (s : Server) (i : Nat) (f : Session → Session) : Server :=
  { s with lines := s.lines.modify i fun l => { l with session := f l.session } }

/-- A connection is accepted, as the one of that number. -/
def accept (s : Server) : Option (Nat × Server) :=
  if s.running then
    some (s.lines.size, { s with
      lines := s.lines.push { session := .new }
      meter := s.meter + { accepted := 1 } })
  else none

def receive (s : Server) (i : Nat) (bytes : Bytes) : Server :=
  s.modifySession i fun c => { c with inlet := c.inlet.push bytes }

def halfClose (s : Server) (i : Nat) : Server :=
  s.modifySession i fun c => { c with inlet := c.inlet.close }

def close (s : Server) (i : Nat) : Server :=
  s.modifySession i fun c => { c with inlet := c.inlet.close, gone := true }

/-- The server's end of a connection is closed. -/
def hasClosed (s : Server) (i : Nat) : Bool :=
  match s.lines[i]? with
  | some l => l.session.hasEnded
  | none => true

def advance (s : Server) (milliseconds : Nat) : Server :=
  { s with now := s.now + milliseconds }

/-! ### Turns -/

def frameOf (r : Response) : Bytes :=
  Frame.lengthBytes r.encode.length ++ r.encode

/-- One turn of a connection, if there is something to do in it. -/
def turn (s : Server) (i : Nat) (t : Session.Turn) : Option Server :=
  match s.lines[i]? with
  | none => none
  | some line =>
    match line.session.turn s.service s.now t with
    | none => none
    | some moved => some { s with
        service := { s.service with registry := moved.registry }
        lines := s.lines.setIfInBounds i
          ⟨moved.session, line.outgoing ++ (moved.sent.map frameOf).getD []⟩
        meter := s.meter + moved.meter
        log := match moved.session.phase with
          | .ended how => s.log ++ [(i, how)]
          | _ => s.log }

/-- A turn of a connection that has something to do, barrier and clock first. -/
def anyTurn (s : Server) (i : Nat) : Option Server :=
  (s.turn i .look).orElse fun _ => s.turn i .input

/-- Turns of one connection until it has nothing to do, and whether there was any. -/
def exhaust (s : Server) (i : Nat) (moved : Bool) : Nat → Server × Bool
  | 0 => (s, moved)
  | fuel + 1 =>
    match s.anyTurn i with
    | none => (s, moved)
    | some s => s.exhaust i true fuel

/-- No connection has more turns than this: a frame takes four at most, to be put aside, to be taken, to arrive at
    a barrier and to be released. -/
def effort (s : Server) : Nat :=
  s.lines.foldl (fun n l => n + 4 * (l.session.inlet.reader.buffer.length + l.session.backlog.length + 4)) 1

/-- All connections in turn, and whether any had something to do. -/
def round (s : Server) : Server × Bool :=
  let fuel := s.effort
  (List.range s.lines.size).foldl (fun (s, moved) i => s.exhaust i moved fuel) (s, false)

def rounds (s : Server) : Nat → Server
  | 0 => s
  | fuel + 1 =>
    match s.round with
    | (s, true) => s.rounds fuel
    | (s, false) => s

/-- Lets the connections take turns until nothing can move. -/
def settle (s : Server) : Server :=
  s.rounds s.effort

def collect (s : Server) (i : Nat) : Bytes × Server :=
  match s.lines[i]? with
  | some l => (l.outgoing, { s with lines := s.lines.setIfInBounds i { l with outgoing := [] } })
  | none => ([], s)

/-! ### Shutdown -/

/-- Cuts off one connection, if it is open. -/
def cut (s : Server) (i : Nat) : Server :=
  match s.lines[i]? with
  | none => s
  | some line =>
    if line.session.hasEnded then s
    else
      let (session, registry, meter) := line.session.cut s.service.registry
      { s with
        service := { s.service with registry }
        lines := s.lines.setIfInBounds i { line with session }
        meter := s.meter + meter }

/-- Accepts nothing more and cuts off all connections. -/
def shutdown (s : Server) : Server :=
  (List.range s.lines.size).foldl cut { s with running := false }

end Server
end Lockstep
