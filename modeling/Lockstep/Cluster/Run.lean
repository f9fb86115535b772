import Lockstep.Cluster

/-!
# Runs of a cluster

A run is a list of steps; after each of them peers and host take turns until
nothing can move, and then it is told what happened. A step that names something
that is not there does nothing.
-/
namespace Lockstep.Cluster

/-- A call on a barrier, without the handle. -/
inductive Ask where
  | waitFor (timeout : Option Client.Duration)
  | status
  | waiting
  | isBroken
  | abort
  | reset
  deriving DecidableEq, Repr

/-- A wait whose timeout is told in milliseconds. -/
def Ask.wait (milliseconds : Option Nat) : Ask :=
  .waitFor (milliseconds.map .ofMilliseconds)

def Ask.call (h : Handle) : Ask → Client.Call
  | .waitFor timeout => .wait h timeout
  | .status => .status h
  | .waiting => .waiting h
  | .isBroken => .isBroken h
  | .abort => .abort h
  | .reset => .reset h

/-- What a worker is told to join with; it uses the host's address and the right secret if it is told nothing
    else. -/
structure Invitation where
  address : Option String := none
  secret : Option String := none
  /-- In milliseconds. -/
  timeout : Option Nat := none
  /-- They are checked as the settings of a worker, as they always are if there is a timeout. -/
  settings : Bool := false
  deriving DecidableEq, Repr

inductive Step where
  | connect (name : String)
  /-- Opens a raw connection and shows the secret on it. -/
  | login (name : String)
  | send (name : String) (bytes : Bytes)
  | halfClose (name : String)
  | close (name : String)
  | advance (milliseconds : Nat)
  | inspect (key : PartitionKey)
  /-- The next attempt to accept a connection fails. -/
  | failAccept
  | shutdown
  /-- A worker joins, as a task of its own name. -/
  | join (worker : String) (invitation : Invitation)
  | getBarrier (task worker barrier : String) (key : PartitionKey)
  | ask (task worker barrier : String) (ask : Ask)
  | cancel (task : String)
  /-- Lets go of a worker and of its barriers. -/
  | dropWorker (worker : String)
  deriving DecidableEq, Repr

inductive Missing where
  | connection (name : String)
  | worker (name : String)
  | barrier (worker name : String)
  | task
  | server
  deriving DecidableEq, Repr

def Missing.message : Missing → String
  | .connection name => "no connection " ++ name
  | .worker name => "no client " ++ name
  | .barrier owner name => "no handle " ++ owner ++ "/" ++ name
  | .task => "no task"
  | .server => "no server"

/-- What a step yields at once. -/
inductive Effect where
  | nothing
  | skipped (what : Missing)
  /-- Nobody accepts the connection. -/
  | refused
  /-- The peer takes no more bytes. -/
  | brokenPipe
  | inspected (status : Option Barrier.Status) (keys : Nat)
  /-- Whether connections are accepted. -/
  | accepting (running : Bool)
  /-- Whether it was this step that stopped the server. -/
  | shutdown (stopped : Bool)
  /-- The task ended by being cancelled. -/
  | cancelled (task : String)
  deriving DecidableEq, Repr

/-! ### Raw connections -/

/-- Opens a raw connection and writes to it; a connection of that name that was open is closed. -/
def connect (c : Cluster) (name : String) (bytes : Bytes) : Cluster × Effect :=
  match c.host.accept with
  | none => (c, .refused)
  | some (i, host) =>
    let old := lookup c.connections name
    let c := { c with
      host := host.receive i bytes
      wires := c.wires.push ⟨some name, .raw {} false⟩
      connections := keep c.connections name i }
    match old with
    | some j => (c.hangUp j, .nothing)
    | none => (c, .nothing)

/-- Does something with a raw connection. -/
def withConnection (c : Cluster) (name : String) (f : Nat → Cluster × Effect) : Cluster × Effect :=
  match lookup c.connections name with
  | some i => f i
  | none => (c, .skipped (.connection name))

/-- The first frame of who shows a secret. -/
def helloFrame (s : Secret) : Bytes :=
  let body := (Request.hello s.toBase64).encode
  Frame.lengthBytes body.length ++ body

/-! ### Workers -/

/-- What a worker tries to join. -/
def Invitation.target (i : Invitation) (host : Address) (secret : Secret) : Except Client.TargetFailure Client.Target :=
  let address := i.address.getD host.display
  let secret := i.secret.getD secret.toBase64
  if i.settings || i.timeout.isSome then
    Client.Target.ofConfig (match i.timeout with
      | some connectTimeout => { address, secret, connectTimeout }
      | none => { address, secret })
  else Client.Target.of address secret

/-- A worker connects and shows its secret. -/
def join (c : Cluster) (worker : String) (t : Client.Target) : Cluster :=
  match Address.parse? t.address with
  | none => c.finish worker (.error Server.noAddress)
  | some address =>
    match if address = c.host.address then c.host.accept else none with
    | none => c.finish worker (.error Client.refused)
    | some (i, host) =>
      { c with
        host := host.receive i (helloFrame t.secret)
        wires := c.wires.push ⟨none, .joining worker { target := t, deadline := c.now + t.timeout }⟩ }

/-- A call is made on a connection. -/
def call (c : Cluster) (i : Nat) (task : Task) (call : Client.Call) : Cluster :=
  match c.peer? i with
  | some (.worker channel) => c.setPeer i (.worker (channel.enqueue task call))
  | _ => c

def cancelOn (c : Cluster) (i : Nat) (name : String) : Option Cluster :=
  match c.peer? i with
  | some (.joining worker _) => if worker = name then some (c.hangUp i) else none
  | some (.worker channel) =>
    (channel.calls.find? (·.name.name = name)).map fun p => c.setChannel i (channel.cancel p.name)
  | _ => none

def cancel (c : Cluster) (name : String) : Option Cluster :=
  (List.range c.wires.size).findSome? fun i => c.cancelOn i name

/-! ### Steps -/

def withServer (c : Cluster) (f : Server → Cluster × Effect) : Cluster × Effect :=
  match c.host with
  | .server s => f s
  | .script _ => (c, .skipped .server)

def perform (c : Cluster) : Step → Cluster × Effect
  | .connect name => c.connect name []
  | .login name => c.connect name (helloFrame c.secret)
  | .send name bytes => c.withConnection name fun i =>
    if c.host.hasClosed i then (c, .brokenPipe) else ({ c with host := c.host.receive i bytes }, .nothing)
  | .halfClose name => c.withConnection name fun i => ({ c with host := c.host.halfClose i }, .nothing)
  | .close name => c.withConnection name fun i =>
    ({ c.hangUp i with connections := c.connections.filter (·.1 ≠ name) }, .nothing)
  | .advance ms => ({ c with now := c.now + ms, host := c.host.advance ms }, .nothing)
  | .inspect key => c.withServer fun s =>
    let r := s.service.registry
    (c, .inspected (((r.find? key).bind r.barrier?).map Barrier.status) r.size)
  | .failAccept => c.withServer fun s => (c, .accepting s.running)
  | .shutdown => c.withServer fun s => ({ c with host := .server s.shutdown }, .shutdown s.running)
  | .join worker invitation =>
    match invitation.target c.host.address c.secret with
    | .error why => (c.finish worker (.error why.fault), .nothing)
    | .ok target => (c.join worker target, .nothing)
  | .getBarrier task worker barrier key =>
    match lookup c.workers worker with
    | none => (c, .skipped (.worker worker))
    | some i => (c.call i ⟨task, some (worker, barrier)⟩ (.getBarrier key), .nothing)
  | .ask task worker barrier ask =>
    match lookup c.barriers (worker, barrier) with
    | none => (c, .skipped (.barrier worker barrier))
    | some (i, h) => (c.call i ⟨task, none⟩ (ask.call h), .nothing)
  | .cancel task =>
    match c.cancel task with
    | none => (c, .skipped .task)
    | some c => (c, .cancelled task)
  | .dropWorker worker =>
    if (lookup c.workers worker).isSome then
      ({ c with
        workers := c.workers.filter (·.1 ≠ worker)
        barriers := c.barriers.filter (·.1.1 ≠ worker) }, .nothing)
    else (c, .skipped (.worker worker))

/-! ### Reports -/

structure Report where
  effect : Effect
  /-- What raw connections heard. -/
  heard : List (String × List Client.Heard)
  /-- How connections of the server ended: raw connections have names. -/
  ended : List (Option String × Session.Ending)
  finished : List (String × Except Fault Yield)
  /-- The frames that the stand-in took. -/
  seen : List Bytes
  meter : Meter

/-- What a raw connection has heard; the end of the stream is heard once. -/
def listen (c : Cluster) (i : Nat) : List Client.Heard × Cluster :=
  match c.peer? i with
  | some (.raw inlet false) =>
    let (heard, inlet) := Client.hearAll (inlet.reader.buffer.length + 3) inlet
    (heard, c.setPeer i (.raw inlet (heard.getLast? = some .closed)))
  | _ => ([], c)

/-- What all raw connections have heard. -/
def listenAll (c : Cluster) : List (String × Nat) → List (String × List Client.Heard) × Cluster
  | [] => ([], c)
  | (name, i) :: rest =>
    let (heard, c) := c.listen i
    let (others, c) := c.listenAll rest
    ((name, heard) :: others, c)

def nameOf (c : Cluster) (i : Nat) : Option String :=
  c.wires[i]?.bind (·.name)

/-- What the host tells, and the host when it is told. -/
def tell : Host → (List (Nat × Session.Ending) × List Bytes × Meter) × Host
  | .server s => ((s.log, [], s.meter), .server { s with log := [], meter := {} })
  | .script s => (([], s.seen, {}), .script { s with seen := [] })

/-- Carries out one step, lets everything settle and reports what happened. -/
def step (c : Cluster) (s : Step) : Report × Cluster :=
  let (c, effect) := c.perform s
  let c := c.settle
  let (heard, c) := c.listenAll c.connections
  let ((log, seen, meter), host) := tell c.host
  ({ effect, heard, seen, meter
     ended := log.map fun (i, how) => (c.nameOf i, how)
     finished := c.finished }, { c with host, finished := [] })

def run (c : Cluster) : List Step → List Report
  | [] => []
  | s :: rest =>
    let (report, c) := c.step s
    report :: c.run rest

end Lockstep.Cluster
