import Lockstep.Client
import Lockstep.Host

/-!
# A cluster

A host and its peers under one clock: raw connections, which write what bytes
they like, and workers. The clock stands still until it is moved. Peers and host
take turns: what one side writes the other hears at its next turn.

A worker's connection is closed as soon as it is of no use any more, be it that
a call took it along or that nobody is left to make another.
-/
namespace Lockstep

namespace Cluster

/-- Names a call and says what the barrier that it yields is to be called: a worker and a name of the worker's. -/
structure Task where
  name : String
  defines : Option (String × String) := none
  deriving DecidableEq, Repr

inductive Yield where
  /-- The worker has joined a server of that many parties. -/
  | joined (parties : Nat)
  | answer (answer : Client.Answer)
  deriving DecidableEq, Repr

/-- Who has the peer's end of a connection. -/
inductive Peer where
  /-- A raw connection, and whether it has heard the end of the stream. -/
  | raw (inlet : Frame.Inlet) (ended : Bool)
  /-- A worker that is joining. -/
  | joining (worker : String) (handshake : Client.Handshake)
  | worker (channel : Client.Channel Task)
  /-- Nobody: the peer's end is closed. -/
  | nobody

/-- A connection, numbered as the host numbers it. -/
structure Wire where
  name : Option String
  peer : Peer

end Cluster

structure Cluster where
  host : Host
  /-- What peers log in with. -/
  secret : Secret
  now : Nat := 0
  wires : Array Cluster.Wire := #[]
  /-- The raw connections that are not closed. -/
  connections : List (String × Nat) := []
  workers : List (String × Nat) := []
  /-- The barriers that workers have asked for: whose connection, and which handle. -/
  barriers : List ((String × String) × Nat × Handle) := []
  /-- What tasks that have finished came to, in the order in which they did. -/
  finished : List (String × Except Fault Cluster.Yield) := []

namespace Cluster

/-- Keeps a value by its name; a name that was in use is used anew. -/
def keep {α β : Type} [DecidableEq α] (entries : List (α × β)) (name : α) (value : β) : List (α × β) :=
  entries.filter (·.1 ≠ name) ++ [(name, value)]

def lookup {α β : Type} [DecidableEq α] (entries : List (α × β)) (name : α) : Option β :=
  (entries.find? (·.1 = name)).map (·.2)

/-! ### The peer's end -/

def peer? (c : Cluster) (i : Nat) : Option Peer :=
  c.wires[i]?.map (·.peer)

def setPeer (c : Cluster) (i : Nat) (p : Peer) : Cluster :=
  { c with wires := c.wires.modify i fun w => { w with peer := p } }

/-- The peer closes a connection and is heard of no more. -/
def hangUp (c : Cluster) (i : Nat) : Cluster :=
  { c.setPeer i .nobody with host := c.host.close i }

def finish (c : Cluster) (name : String) (outcome : Except Fault Yield) : Cluster :=
  { c with finished := c.finished ++ [(name, outcome)] }

/-- The state of a worker's connection changes; one that became useless is closed. -/
def setChannel (c : Cluster) (i : Nat) (channel : Client.Channel Task) : Cluster :=
  let c := c.setPeer i (.worker channel)
  if channel.usable then c else { c with host := c.host.close i }

/-- Somebody can make a call on a connection, or makes one. -/
def isHeld (c : Cluster) (i : Nat) (channel : Client.Channel Task) : Bool :=
  !channel.calls.isEmpty || c.workers.any (·.2 = i) || c.barriers.any (·.2.1 = i)

/-- What a call yields is kept: a barrier gets the name that it was asked for under. -/
def conclude (c : Cluster) (i : Nat) (task : Task) (outcome : Except Fault Client.Answer) : Cluster :=
  let c := c.finish task.name (outcome.map .answer)
  match task.defines, outcome with
  | some name, .ok (.barrier handle _ _) => { c with barriers := keep c.barriers name (i, handle) }
  | _, _ => c

/-- What a turn of a worker's connection comes to. -/
def apply (c : Cluster) (i : Nat) (moved : Client.Channel.Moved Task) : Cluster :=
  let c := { c with host := c.host.receive i moved.written }
  let c := c.setChannel i moved.channel
  match moved.finished with
  | some (task, _, outcome) => c.conclude i task outcome
  | none => c

def turn (c : Cluster) (i : Nat) : Option Cluster :=
  match c.peer? i with
  | some (.joining name handshake) =>
    match handshake.turn c.now with
    | none => none
    | some (.error f) => some ((c.hangUp i).finish name (.error f))
    | some (.ok channel) =>
      let c := c.setPeer i (.worker channel)
      some ({ c with workers := keep c.workers name i }.finish name (.ok (.joined channel.parties)))
  | some (.worker channel) =>
    if c.isHeld i channel then channel.turn.map (c.apply i) else some (c.hangUp i)
  | _ => none

/-! ### What the host writes -/

/-- What a peer hears, if it listens: bytes, and whether the host's end is closed. -/
def Peer.hear (bytes : Bytes) (closed : Bool) : Peer → Peer
  | .raw inlet ended => .raw (heard inlet) ended
  | .joining name h => .joining name { h with inlet := heard h.inlet }
  | .worker channel => .worker { channel with inlet := heard channel.inlet, gone := channel.gone || closed }
  | .nobody => .nobody
where
  heard (inlet : Frame.Inlet) : Frame.Inlet :=
    let inlet := inlet.push bytes
    if closed then inlet.close else inlet

/-- The peer listens and was not told yet that the stream is over. -/
def Peer.listens : Peer → Bool
  | .raw inlet _ => !inlet.closed
  | .joining _ h => !h.inlet.closed
  | .worker channel => !channel.inlet.closed
  | .nobody => false

/-- A peer hears what the host wrote to it, and whether that was anything. -/
def deliver (c : Cluster) (i : Nat) : Cluster × Bool :=
  match c.peer? i with
  | none => (c, false)
  | some p =>
    let (bytes, host) := c.host.collect i
    let closed := host.hasClosed i
    if p.listens && (closed || !bytes.isEmpty) then ({ c with host }.setPeer i (p.hear bytes closed), true)
    else (c, false)

/-! ### Taking turns -/

/-- Turns of one peer until it has nothing to do, and whether there was any. -/
def exhaust (c : Cluster) (i : Nat) (moved : Bool) : Nat → Cluster × Bool
  | 0 => (c, moved)
  | fuel + 1 =>
    match c.turn i with
    | none => (c, moved)
    | some c => c.exhaust i true fuel

/-- More than all peers together can do: a call takes the connection,
    writes and ends, and a connection is joined and given up. -/
def effort (c : Cluster) : Nat :=
  c.wires.foldl (fun n w => match w.peer with
    | .worker channel => n + 3 * channel.calls.length + 2
    | _ => n + 2) 1

/-- All peers do what they can, and whether that was anything. -/
def exhaustAll (c : Cluster) : Cluster × Bool :=
  let fuel := c.effort
  (List.range c.wires.size).foldl (fun (c, moved) i => c.exhaust i moved fuel) (c, false)

/-- All peers hear what the host wrote to them, and whether that was anything. -/
def deliverAll (c : Cluster) : Cluster × Bool :=
  (List.range c.wires.size).foldl (fun (c, heard) i =>
    let (c, more) := c.deliver i
    (c, heard || more)) (c, false)

/-- Peers and host take turns, so many times or until nobody has anything to do. -/
def rounds (c : Cluster) : Nat → Cluster
  | 0 => c
  | fuel + 1 =>
    let (c, moved) := c.exhaustAll
    let (c, heard) := { c with host := c.host.settle }.deliverAll
    if moved || heard then c.rounds fuel else c

/-- Lets peers and host take turns until nothing can move: between two rounds in which peers do something there
    is at most one in which they only hear something. -/
def settle (c : Cluster) : Cluster :=
  c.rounds (2 * c.effort + 2)

end Cluster
end Lockstep
