import Lockstep.Frame
import Lockstep.Message.Read
import Lockstep.Registry
import Lockstep.Secret
import Lockstep.ServerConfig

/-!
# One connection of the server

A session first waits for the secret, then answers requests strictly in order.
While a wait is open it keeps reading: frames that arrive are put aside and
answered later, and a peer that leaves takes its arrival with it.

A session moves in small turns. A turn either takes one item of input or looks
at the clock and the barrier; while a wait is open either may come first, and in
which order they come is left open here.
-/
namespace Lockstep

/-- What all connections of a server share. -/
structure Service where
  config : ServerConfig
  secret : Secret
  registry : Registry
  /-- What the parser says is wrong with a frame that holds no request. -/
  complaint : Bytes → String

namespace Service

def new (config : ServerConfig) (secret : Secret) (complaint : Bytes → String) : Service :=
  ⟨config, secret, { options := config.barrierOptions }, complaint⟩

end Service

namespace Session

/-- How many frames may be put aside behind an open wait. -/
def maxBacklog : Nat := 16

/-- Why a connection was not authenticated. -/
inductive Rejection where
  | wrongSecret
  /-- The first request was another one. -/
  | notHello (name : String)
  /-- The first frame holds no request. -/
  | malformed
  /-- There is no first frame. -/
  | unframed
  /-- Nothing came within so many milliseconds. -/
  | timedOut (milliseconds : Nat)
  deriving DecidableEq, Repr

def Rejection.reason : Rejection → String
  | .wrongSecret => "wrong shared secret"
  | .notHello name => "first request was `" ++ name ++ "` instead of `hello`"
  | .malformed => "unreadable handshake frame: " ++ (Fault.ofMalformed "").description
  | .unframed => "unreadable handshake frame: " ++ (Fault.ofStream .other "").description
  | .timedOut ms => "no hello within " ++ toString ms ++ "ms"

inductive Ending where
  /-- The peer closed it between two requests. -/
  | closed
  | rejected (why : Rejection)
  /-- The peer closed it while a wait on this handle was open. -/
  | lost (handle : Handle)
  /-- A frame held no request, and this is what is wrong with it. -/
  | malformed (complaint : String)
  /-- Too many frames came while a wait on this handle was open. -/
  | overrun (handle : Handle)
  | unframed (failure : Frame.Failure)
  | unwritable (fault : Fault)
  /-- A barrier could not be made. -/
  | impossible
  deriving DecidableEq, Repr

/-- A frame that holds no request. -/
def malformedFrame (complaint : String) : Fault :=
  ⟨.protocolViolation, "Malformed request frame", some complaint, []⟩

def Ending.fault? : Ending → Option Fault
  | .closed | .impossible => none
  | .rejected why => some ⟨.authenticationFailed, "Connection failed authentication", some why.reason, []⟩
  | .lost h =>
    some ⟨.connectionLost, "Connection closed while waiting on barrier", some ("handle " ++ toString h), []⟩
  | .malformed complaint => some (malformedFrame complaint)
  | .overrun h =>
    some ⟨.protocolViolation, "Too many requests pipelined behind a wait",
      some ("more than " ++ toString maxBacklog ++ " frames behind handle " ++ toString h), []⟩
  | .unframed failure => some failure.fault
  | .unwritable f => some f

/-- How the end of a connection is logged, and why it came. -/
def Ending.log (e : Ending) : String × Option String :=
  match e.fault? with
  | none => ("connection closed", none)
  | some f =>
    match f.kind with
    | .connectionLost => ("connection lost", f.detail)
    | .authenticationFailed => ("connection rejected", f.detail)
    | .protocolViolation => ("connection closed after protocol violation", f.detail)
    | _ => ("connection failed", some f.summary)

inductive Phase where
  /-- The secret has to be shown before the deadline, which is set when the session first runs. -/
  | greeting (deadline : Option Nat)
  | serving
  /-- A wait is open. -/
  | waiting (handle : Handle) (place : Registry.Place) (wait : Barrier.Wait)
  | ended (how : Ending)
  deriving DecidableEq, Repr

end Session

structure Session where
  phase : Session.Phase
  inlet : Frame.Inlet := {}
  /-- The peer takes no more bytes. -/
  gone : Bool := false
  /-- The keys asked for and their barriers: the first one has handle 1. -/
  handles : Array (PartitionKey × Registry.Place) := #[]
  backlog : List Bytes := []
  deriving DecidableEq, Repr

namespace Session

/-- A session that has not run yet. -/
def new : Session :=
  { phase := .greeting none }

def hasEnded (s : Session) : Bool :=
  s.phase matches .ended _

/-- The key and the barrier of a handle that was issued here. -/
def binding? (s : Session) (h : Handle) : Option (PartitionKey × Registry.Place) :=
  if h = 0 then none else s.handles[h - 1]?

structure Moved where
  session : Session
  registry : Registry
  sent : Option Response := none
  meter : Meter := {}

/-! ### Endings -/

/-- Gives up the wait that is open. -/
def abandon (s : Session) (r : Registry) : Registry × Meter :=
  match s.phase with
  | .waiting _ place wait => r.update place (·.drop wait)
  | _ => (r, {})

/-- What the end of a connection counts as. -/
def Ending.meter (e : Ending) : Meter :=
  { errors := (e.fault?.map fun f => [f.kind]).getD []
    rejected := match e with
      | .rejected _ => 1
      | _ => 0 }

/-- Ends the connection; what was put aside is forgotten. -/
def finish (s : Session) (r : Registry) (how : Ending) : Moved :=
  let (registry, meter) := s.abandon r
  { session := { s with phase := .ended how, backlog := [] }, registry, meter := meter + how.meter }

/-- Why a response cannot be written, if it cannot. -/
def writeFault? (s : Session) (r : Response) : Option Fault :=
  if Frame.maxBody < r.encode.length then some Frame.Failure.oversized.fault
  else if s.gone then some Frame.brokenPipe
  else none

/-- Answers a request; a response that cannot be written ends the connection. -/
def reply (s : Session) (r : Registry) (response : Response) (meter : Meter) : Moved :=
  match s.writeFault? response with
  | some f =>
    let moved := s.finish r (.unwritable f)
    { moved with meter := meter + moved.meter }
  | none => { session := s, registry := r, sent := some response, meter }

/-- Ends the connection with a last response that tells why. -/
def finishWith (s : Session) (r : Registry) (response : Response) (how : Ending) : Moved :=
  match s.writeFault? response with
  | some f => s.finish r (.unwritable f)
  | none => { s.finish r how with sent := some response }

/-! ### The secret -/

/-- What every rejected connection is told. -/
def rejection : Response :=
  .error .authenticationFailed "authentication failed"

/-- Rejects the connection; it does not matter whether the peer still hears of it. -/
def reject (s : Session) (r : Registry) (why : Rejection) : Moved :=
  { s.finish r (.rejected why) with sent := if s.gone then none else some rejection }

/-- Takes the first frame. -/
def greet (service : Service) (s : Session) (body : Bytes) : Moved :=
  let r := service.registry
  match Request.decode? body with
  | some (.hello secret) =>
    if service.secret.verify secret then
      { s with phase := .serving }.reply r (.welcome service.config.parties) {}
    else s.reject r .wrongSecret
  | some request => s.reject r (.notHello request.name)
  | none => s.reject r .malformed

/-! ### Requests -/

/-- A handle that was not issued on this connection. -/
def unknownHandle (h : Handle) : Fault :=
  ⟨.unknownHandle, "Unknown barrier handle",
    some ("handle " ++ toString h ++ " was not issued on this connection"), []⟩

/-- The secret was shown before. -/
def alreadyAuthenticated : Fault :=
  ⟨.protocolViolation, "Connection is already authenticated", none, []⟩

/-- Answers a request on the barrier of a handle. -/
def withBarrier (s : Session) (r : Registry) (h : Handle) (f : Registry.Place → Moved) : Moved :=
  match s.binding? h with
  | some (_, place) => f place
  | none => s.reply r (.ofFault (unknownHandle h)) {}

/-- Issues a handle for a key. -/
def issue (s : Session) (r : Registry) (key : PartitionKey) : Moved :=
  match r.getOrCreate key with
  | (registry, some place, meter) =>
    let s := { s with handles := s.handles.push (key, place) }
    s.reply registry (.handle s.handles.size registry.options.parties) meter
  | (registry, none, meter) =>
    let moved := s.finish registry .impossible
    { moved with meter := meter + moved.meter }

/-- Carries out a request. A wait is opened and not polled yet. -/
def dispatch (service : Service) (s : Session) (request : Request) : Moved :=
  let r := service.registry
  match request with
  | .hello _ => s.reply r (.ofFault alreadyAuthenticated) {}
  | .getBarrier key => s.issue r key
  | .wait h timeout =>
    s.withBarrier r h fun place =>
      let timeout := timeout.orElse fun _ => service.config.waitTimeout
      { session := { s with phase := .waiting h place { timeout } }, registry := r }
  | .status h =>
    s.withBarrier r h fun place =>
      match r.barrier? place with
      | some b => s.reply r (.status b.status) {}
      | none => s.finish r .impossible
  | .abort h =>
    s.withBarrier r h fun place =>
      let (r, meter) := r.update place Barrier.abort
      s.reply r .ok meter
  | .reset h =>
    s.withBarrier r h fun place =>
      let (r, meter) := r.update place Barrier.reset
      s.reply r .ok meter

/-- Takes a frame as a request. -/
def serve (service : Service) (s : Session) (body : Bytes) : Moved :=
  match Request.decode? body with
  | some request => s.dispatch service request
  | none =>
    let complaint := service.complaint body
    s.finishWith service.registry (.ofFault (malformedFrame complaint)) (.malformed complaint)

/-! ### An open wait -/

def responseOf : Barrier.Result → Response
  | .released index => .arrived index
  | .failed why => .ofFault why.fault

def pollWait (service : Service) (now : Nat) (s : Session) (h : Handle) (place : Registry.Place)
    (wait : Barrier.Wait) : Moved :=
  match service.registry.barrier? place with
  | none => s.finish service.registry .impossible
  | some b =>
    let (b, poll, meter) := b.poll now wait
    let registry := service.registry.put place b
    match poll with
    | .pending wait => { session := { s with phase := .waiting h place wait }, registry, meter }
    | .done result => { s with phase := .serving }.reply registry (responseOf result) meter

/-- Puts a frame aside, if there is room. -/
def putAside (s : Session) (r : Registry) (h : Handle) (body : Bytes) : Moved :=
  if maxBacklog ≤ s.backlog.length then
    let how := Ending.overrun h
    s.finishWith r (.ofFault (how.fault?.getD alreadyAuthenticated)) how
  else { session := { s with backlog := s.backlog ++ [body] }, registry := r }

/-! ### Turns -/

inductive Turn where
  | input
  | look
  deriving DecidableEq, Repr

/-- Takes an item of input that has arrived. -/
def takeItem (service : Service) (s : Session) (item : Frame.Item) : Option Moved :=
  let r := service.registry
  match s.phase, item with
  | _, .pending => none
  | .ended _, _ => none
  | .greeting _, .frame body => some (s.greet service body)
  | .greeting _, .failed _ => some (s.reject r .unframed)
  | .greeting _, .finished => some (s.finish r .closed)
  | .serving, .frame body => some (s.serve service body)
  | .serving, .failed failure => some (s.finish r (.unframed failure))
  | .serving, .finished => some (s.finish r .closed)
  | .waiting h _ _, .frame body => some (s.putAside r h body)
  | .waiting _ _ _, .failed failure => some (s.finish r (.unframed failure))
  | .waiting h _ _, .finished => some (s.finish r (.lost h))

/-- Takes the next item of input: a frame that was put aside comes before one that arrives, but while a wait is
    open only what arrives is looked at. -/
def takeInput (service : Service) (s : Session) : Option Moved :=
  match s.phase, s.backlog with
  | .serving, body :: backlog => some ({ s with backlog }.serve service body)
  | _, _ =>
    let (item, inlet) := s.inlet.next
    { s with inlet }.takeItem service item

/-- The session runs for the first time, and no first frame is there: its time begins. -/
def begin (service : Service) (now : Nat) (s : Session) : Moved :=
  { session := { s with phase := .greeting (some (now + service.config.handshakeTimeout)) }
    registry := service.registry }

/-- Looks at the clock and at the barrier: the secret is overdue only when no first frame is there. -/
def look (service : Service) (now : Nat) (s : Session) : Option Moved :=
  match s.phase with
  | .greeting none => some (s.begin service now)
  | .greeting (some deadline) =>
    let (item, inlet) := s.inlet.next
    if deadline ≤ now ∧ item = .pending then
      some ({ s with inlet }.reject service.registry (.timedOut service.config.handshakeTimeout))
    else none
  | .waiting h place wait =>
    let moved := s.pollWait service now h place wait
    if moved.session.phase = s.phase then none else some moved
  | _ => none

def turn (service : Service) (now : Nat) (s : Session) : Turn → Option Moved
  | .input => s.takeInput service
  | .look => s.look service now

/-- The connection is cut off by the server; nothing is logged or counted for it. -/
def cut (s : Session) (r : Registry) : Session × Registry × Meter :=
  let (registry, meter) := s.abandon r
  ({ s with phase := .ended .closed, backlog := [] }, registry, meter)

end Session
end Lockstep
