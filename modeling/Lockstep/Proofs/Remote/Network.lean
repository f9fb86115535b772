import Lockstep.Cluster.Run
import Lockstep.Proofs.Registry.Independent
import Lockstep.Proofs.Server.Order

namespace Lockstep.Remote
open Client

/-- A call on the barrier of a key that is over, and what it returned. -/
structure Return where
  key : PartitionKey
  call : Call
  outcome : Except Fault Answer
  deriving DecidableEq

/-- The barrier that a call yielded: its key and its handle. -/
def Return.barrier? (r : Return) : Option (PartitionKey × Handle) :=
  match r.outcome with
  | .ok (.barrier h _ _) => some (r.key, h)
  | _ => none

/-- Who has the worker's end of a connection. Calls go by the key of the barrier that they are made on. -/
inductive Peer where
  | joining (handshake : Handshake)
  | worker (channel : Channel PartitionKey)
  /-- Nobody: the worker could not join, or it has left. -/
  | nobody

/-- The channel of a worker that has joined. -/
def Peer.channel? : Peer → Option (Channel PartitionKey)
  | .worker channel => some channel
  | _ => none

/-- A connection of a worker, numbered as the server numbers it. -/
structure Wire where
  peer : Peer
  /-- Bytes that the worker wrote and the server has not received. -/
  sent : Bytes := []
  /-- How many of the bytes that the server wrote the worker has heard. -/
  heard : Nat := 0
  /-- The calls of the worker, in the order in which they were made. -/
  made : List (PartitionKey × Call) := []
  /-- Its calls that are over, in the order in which they returned. -/
  returned : List Return := []

/-- The call that owns the connection. -/
def Wire.current? (w : Wire) : Option (PartitionKey × Call) :=
  w.peer.channel?.bind fun channel => channel.calls.head?.map fun p => (p.name, p.call)

/-- The barriers that the worker got. -/
def Wire.barriers (w : Wire) : List (PartitionKey × Handle) :=
  w.returned.filterMap Return.barrier?

/-- The worker hears bytes, and perhaps the end of the stream. -/
def Peer.hear (bytes : Bytes) (closed : Bool) : Peer → Peer
  | .joining h => .joining { h with inlet := heard h.inlet }
  | .worker channel => .worker { channel with inlet := heard channel.inlet, gone := channel.gone || closed }
  | .nobody => .nobody
where
  heard (inlet : Frame.Inlet) : Frame.Inlet :=
    let inlet := inlet.push bytes
    if closed then inlet.close else inlet

structure Network where
  server : Server
  wires : Array Wire := #[]

/-- What can happen. -/
inductive Action where
  /-- A worker connects and shows a secret. -/
  | join (target : Target)
  | getBarrier (worker : Nat) (key : PartitionKey)
  /-- A call on the barrier that the worker got as the one of that number. -/
  | ask (worker barrier : Nat) (ask : Cluster.Ask)
  /-- A worker without calls under way is let go of. -/
  | leave (worker : Nat)
  | advance (milliseconds : Nat)
  /-- A turn of a worker. -/
  | work (worker : Nat)
  /-- Some of what the worker wrote reaches the server. -/
  | send (worker count : Nat)
  /-- Some of what the server wrote reaches the worker. -/
  | hear (worker count : Nat)
  /-- A turn of the server on the connection of a worker. -/
  | serve (worker : Nat) (turn : Session.Turn)

namespace Network

def start (config : ServerConfig) (secret : Secret) (address : Address) (complaint : Bytes → String) : Network :=
  { server := Server.start config secret address complaint }

def setWire (n : Network) (i : Nat) (w : Wire) : Network :=
  { n with wires := n.wires.setIfInBounds i w }

/-- The worker's end of a connection is closed. -/
def hangUp (n : Network) (i : Nat) (w : Wire) : Network :=
  { n.setWire i { w with peer := .nobody } with server := n.server.perform (.close i) }

def join (n : Network) (target : Target) : Network :=
  match n.server.accept with
  | none => n
  | some (_, server) =>
    let handshake : Handshake := { target, deadline := n.server.now + target.timeout }
    { server, wires := n.wires.push { peer := .joining handshake, sent := Frame.frame target.hello.encode } }

/-- A call is made, if the worker has joined. -/
def call (n : Network) (i : Nat) (key : PartitionKey) (call : Call) : Network :=
  match n.wires[i]? with
  | none => n
  | some w =>
    match w.peer with
    | .worker channel =>
      n.setWire i { w with peer := .worker (channel.enqueue key call), made := w.made ++ [(key, call)] }
    | _ => n

def ask (n : Network) (i barrier : Nat) (ask : Cluster.Ask) : Network :=
  match n.wires[i]? with
  | none => n
  | some w =>
    match w.barriers[barrier]? with
    | some (key, h) => n.call i key (ask.call h)
    | none => n

def leave (n : Network) (i : Nat) : Network :=
  match n.wires[i]? with
  | none => n
  | some w =>
    match w.peer with
    | .worker channel => if channel.calls.isEmpty then n.hangUp i w else n
    | _ => n

/-- What a turn of a worker comes to; a connection that it cannot use any more is closed. -/
def moved (n : Network) (i : Nat) (w : Wire) (m : Channel.Moved PartitionKey) : Network :=
  let finished := m.finished.map fun (key, call, outcome) => (⟨key, call, outcome⟩ : Return)
  let n := n.setWire i { w with
    peer := .worker m.channel
    sent := w.sent ++ m.written
    returned := w.returned ++ finished.toList }
  if m.channel.usable then n else { n with server := n.server.perform (.close i) }

def work (n : Network) (i : Nat) : Network :=
  match n.wires[i]? with
  | none => n
  | some w =>
    match w.peer with
    | .joining handshake =>
      match handshake.turn n.server.now with
      | none => n
      | some (.error _) => n.hangUp i w
      | some (.ok channel) => n.setWire i { w with peer := .worker channel }
    | .worker channel =>
      match channel.turn with
      | none => n
      | some m => n.moved i w m
    | .nobody => n

def send (n : Network) (i count : Nat) : Network :=
  match n.wires[i]? with
  | none => n
  | some w =>
    { n.setWire i { w with sent := w.sent.drop count } with
      server := n.server.perform (.receive i (w.sent.take count)) }

def hear (n : Network) (i count : Nat) : Network :=
  match n.wires[i]?, n.server.lines[i]? with
  | some w, some line =>
    let bytes := (line.outgoing.drop w.heard).take count
    let heard := w.heard + bytes.length
    let closed := line.session.hasEnded && heard == line.outgoing.length
    n.setWire i { w with peer := w.peer.hear bytes closed, heard }
  | _, _ => n

def perform (n : Network) : Action → Network
  | .join target => n.join target
  | .getBarrier i key => n.call i key (.getBarrier key)
  | .ask i barrier ask => n.ask i barrier ask
  | .leave i => n.leave i
  | .advance ms => { n with server := n.server.perform (.advance ms) }
  | .work i => n.work i
  | .send i count => n.send i count
  | .hear i count => n.hear i count
  | .serve i t => { n with server := n.server.perform (.turn i t) }

/-- Nothing can move on a connection: all that was written has come, and neither end has a turn. -/
structure AtRest (n : Network) (i : Nat) (w : Wire) (line : Line) : Prop where
  come : w.sent = []
  heard : w.heard = line.outgoing.length
  served : ∀ t, n.server.turn i t = none
  worked : ∀ channel, w.peer = .worker channel → channel.turn = none

end Network

/-- What a call does with the barrier of its key at first. The wait of a worker goes by the worker's number. Its timeout
    is the whole milliseconds of the one that was asked for, and the default one if none was. -/
def use (i : Nat) (default : Option Nat) : Call → Registry.Use Nat
  | .getBarrier _ => .getOrCreate
  | .wait _ timeout => .create i ((timeout.map Duration.milliseconds).orElse fun _ => default)
  | .status _ | .waiting _ | .isBroken _ => .get
  | .abort _ => .abort
  | .reset _ => .reset

/-- The fault of a wait that failed. -/
def broken (why : Barrier.Failure) : Fault :=
  ⟨.barrierBroken, "Rendezvous server returned an error",
    some (why.fault.description ++ ": " ++ why.fault.detail.getD ""), []⟩

/-- What the barrier's answer is to a call: nothing while it waits. Barriers are handed out with numbers from 1 on. -/
def outcome? (issued : Nat) : Call → Registry.Answer → Option (Except Fault Answer)
  | .getBarrier key, .barrier (some s) => some (.ok (.barrier (issued + 1) key s.parties))
  | .status _, .barrier (some s) => some (.ok (.status s))
  | .waiting _, .barrier (some s) => some (.ok (.count s.waiting))
  | .isBroken _, .barrier (some s) => some (.ok (.truth s.broken))
  | .wait _ _, .polled (some (.released index)) => some (.ok (.index index))
  | .wait _ _, .polled (some (.failed why)) => some (.error (broken why))
  | .abort _, .nothing => some (.ok .done)
  | .reset _, .nothing => some (.ok .done)
  | _, _ => none

/-- What a call of a worker returns when the barrier of its key is used, if it returns at all; these returned before. -/
def returns (before : List Return) (run : Registry.Run (PartitionKey × Nat)) (key : PartitionKey) (call : Call)
    (u : Registry.Use Nat) : List Return :=
  let issued := (before.filterMap Return.barrier?).length
  ((outcome? issued call (run.answer key u)).map fun outcome => ⟨key, call, outcome⟩).toList

/-- The barriers, the clock and the waits, and what calls have returned: to which worker, in the order in which they
    did. -/
structure Local where
  run : Registry.Run (PartitionKey × Nat)
  returned : List (Nat × Return) := []

namespace Local

def start (config : ServerConfig) : Local :=
  { run := .start config.barrierOptions }

def returnedTo (l : Local) (i : Nat) : List Return :=
  l.returned.filterMap fun (j, r) => if j = i then some r else none

/-- A worker's call uses the barrier of its key. -/
def use (l : Local) (i : Nat) (key : PartitionKey) (call : Call) (u : Registry.Use Nat) : Local :=
  { run := l.run.use key u, returned := l.returned ++ (returns (l.returnedTo i) l.run key call u).map (i, ·) }

end Local

/-- What the server turns to with a turn of a connection: the call that owns the connection is taken up when its
    request is, and its wait is polled when the server looks after it. -/
def Wire.taken? (w : Wire) (default : Option Nat) (i : Nat) (s : Session) (t : Session.Turn) :
    Option (PartitionKey × Call × Registry.Use Nat) := do
  let (key, call) ← w.current?
  match t, s.phase with
  | .input, _ => s.request?.map fun _ => (key, call, Remote.use i default call)
  | .look, .waiting _ _ _ => some (key, call, .poll i)
  | .look, _ => none

namespace Network

def taken? (n : Network) (i : Nat) (t : Session.Turn) : Option (PartitionKey × Call × Registry.Use Nat) := do
  let w ← n.wires[i]?
  let line ← n.server.lines[i]?
  w.taken? n.server.service.config.waitTimeout i line.session t

/-- What an action is on the barriers themselves. -/
def follow (n : Network) (l : Local) : Action → Local
  | .advance ms => { l with run := l.run.performAt (.advance ms) }
  | .serve i t =>
    match n.taken? i t with
    | some (key, call, u) => l.use i key call u
    | none => l
  | _ => l

/-- A run, and what it is on the barriers themselves. -/
def alongside (n : Network) (l : Local) : List Action → Network × Local
  | [] => (n, l)
  | a :: rest => (n.perform a).alongside (n.follow l a) rest

end Network

/-- Keys are small enough for a frame. -/
def Action.fits : Action → Bool
  | .getBarrier _ key => (Request.getBarrier key).encode.length ≤ Frame.maxBody
  | _ => true

end Lockstep.Remote
