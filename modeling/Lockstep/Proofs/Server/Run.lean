import Lockstep.Proofs.Barrier.History
import Lockstep.Server

namespace Lockstep

/-- The frame shows the secret. -/
def Service.admits (service : Service) (body : Bytes) : Bool :=
  match Request.decode? body with
  | some (.hello secret) => service.secret.verify secret
  | _ => false

namespace Server

/-- What can happen to a server. -/
inductive Operation where
  | accept
  | receive (connection : Nat) (bytes : Bytes)
  | halfClose (connection : Nat)
  | close (connection : Nat)
  | advance (milliseconds : Nat)
  | turn (connection : Nat) (turn : Session.Turn)
  /-- A shutdown is requested. -/
  | stop
  /-- An open connection is cut off, once a shutdown was requested. -/
  | cut (connection : Nat)
  deriving DecidableEq, Repr

/-- What a run shows. -/
inductive Event where
  /-- The bytes of a frame were decoded as a request. -/
  | decoded (connection : Nat) (body : Bytes)
  /-- The first frame came in time and showed the secret. -/
  | authenticated (connection : Nat)
  | dispatched (connection : Nat) (request : Request)
  /-- A wait on a handle of this key began. -/
  | opened (connection : Nat) (key : PartitionKey)
  /-- What became of a wait at the barrier of this key. -/
  | barrier (key : PartitionKey) (event : Barrier.Event Nat)
  /-- A response was written. If it answers a wait, that was a wait on this key and belonged to this generation. -/
  | sent (connection : Nat) (response : Response) (wait : Option (PartitionKey × Nat))
  deriving DecidableEq, Repr

/-- The connection that an event is about. -/
def Event.connection : Event → Nat
  | .decoded i _ | .authenticated i | .dispatched i _ | .opened i _ | .sent i _ _ => i
  | .barrier _ (.arrived i _) | .barrier _ (.left i _) | .barrier _ (.returned i _ _) => i

def Event.at? (key : PartitionKey) : Event → Option (Barrier.Event Nat)
  | .barrier k e => if k = key then some e else none
  | _ => none

/-- The response that was written to the connection. -/
def Event.responseTo? (i : Nat) : Event → Option Response
  | .sent j r _ => if j = i then some r else none
  | _ => none

end Server

/-! ### What a turn of a connection shows -/

namespace Session

/-- The wait that is open: its key, its barrier and its state. -/
def openWait? (s : Session) : Option (PartitionKey × Registry.Place × Barrier.Wait) :=
  match s.phase with
  | .waiting h place w => (s.binding? h).map fun e => (e.1, place, w)
  | _ => none

/-- The frame that the next turn of input decodes. -/
def frame? (s : Session) : Option Bytes :=
  match s.phase, s.backlog with
  | .serving, body :: _ => some body
  | .serving, [] | .greeting _, _ =>
    match s.inlet.next.1 with
    | .frame body => some body
    | _ => none
  | _, _ => none

/-- What reading shows. -/
def readEvents (service : Service) (i : Nat) (s : Session) : List Server.Event :=
  match s.frame? with
  | none => []
  | some body => .decoded i body ::
    match s.phase with
    | .greeting _ => if service.admits body then [.authenticated i] else []
    | _ =>
      match Request.decode? body with
      | some request => [.dispatched i request]
      | none => []

/-- What the beginning of a wait shows. -/
def openEvents (i : Nat) (before after : Session) : List Server.Event :=
  match before.openWait?, after.openWait? with
  | none, some (key, _, _) => [.opened i key]
  | _, _ => []

def pollEvents (service : Service) (now i : Nat) (s : Session) : List Server.Event :=
  match s.openWait? with
  | some (key, place, w) =>
    match service.registry.barrier? place with
    | some b => (b.pollEvents now i w).map (.barrier key)
    | none => []
  | none => []

def dropEvents (i : Nat) (s : Session) : List Server.Event :=
  match s.openWait? with
  | some (key, _, w) => (Barrier.dropEvents i w).map (.barrier key)
  | none => []

def waited? (service : Service) (s : Session) : Option (PartitionKey × Nat) :=
  match s.openWait? with
  | some (key, place, w) => (service.registry.barrier? place).map fun b => (key, w.generation b)
  | none => none

/-- What one turn shows, given what it came to. -/
def turnEvents (service : Service) (now i : Nat) (s : Session) (t : Turn) (moved : Moved) : List Server.Event :=
  match t with
  | .input =>
    s.readEvents service i ++ openEvents i s moved.session ++ (if moved.session.hasEnded then s.dropEvents i else []) ++
      (moved.sent.map fun r => Server.Event.sent i r none).toList
  | .look =>
    s.pollEvents service now i ++ (moved.sent.map fun r => Server.Event.sent i r (s.waited? service)).toList

end Session

/-! ### Runs -/

namespace Server

/-- A server that has accepted nothing yet. -/
def start (config : ServerConfig) (secret : Secret) (address : Address) (complaint : Bytes → String) : Server :=
  { service := .new config secret complaint, address }

/-- Carries out one operation; one that is not possible does nothing. -/
def perform (s : Server) : Operation → Server
  | .accept => (s.accept.map (·.2)).getD s
  | .receive i bytes => s.receive i bytes
  | .halfClose i => s.halfClose i
  | .close i => s.close i
  | .advance ms => s.advance ms
  | .turn i t => (s.turn i t).getD s
  | .stop => { s with running := false }
  | .cut i => if s.running then s else s.cut i

def events (s : Server) : Operation → List Event
  | .turn i t =>
    match s.lines[i]? with
    | some line =>
      match line.session.turn s.service s.now t with
      | some moved => line.session.turnEvents s.service s.now i t moved
      | none => []
    | none => []
  | .cut i =>
    match s.lines[i]? with
    | some line => if s.running then [] else line.session.dropEvents i
    | none => []
  | _ => []

def run (s : Server) (ops : List Operation) : Server :=
  ops.foldl perform s

/-- What operations show, in order. -/
def history (s : Server) : List Operation → List Event
  | [] => []
  | op :: ops => s.events op ++ (s.perform op).history ops

@[simp] theorem run_nil (s : Server) : s.run [] = s := rfl

@[simp] theorem run_cons (s : Server) (op : Operation) (ops : List Operation) :
    s.run (op :: ops) = (s.perform op).run ops := rfl

theorem run_append (s : Server) (before after : List Operation) : s.run (before ++ after) = (s.run before).run after :=
  List.foldl_append

@[simp] theorem history_nil (s : Server) : s.history [] = [] := rfl

@[simp] theorem history_cons (s : Server) (op : Operation) (ops : List Operation) :
    s.history (op :: ops) = s.events op ++ (s.perform op).history ops := rfl

theorem history_append (s : Server) (before after : List Operation) :
    s.history (before ++ after) = s.history before ++ (s.run before).history after := by
  induction before generalizing s with
  | nil => rfl
  | cons op before ih => simp [ih, List.append_assoc]

theorem perform_accept {s : Server} (going : s.running = true) :
    s.perform .accept = { s with
      lines := s.lines.push { session := .new }
      meter := s.meter + { accepted := 1 } } := by
  simp [perform, Server.accept, going]

/-! ### What a server does by itself -/

/-- A server that was bound is a fresh one, and its barriers have parties. -/
theorem start_of_bind {config : ServerConfig} {secret : Secret} {s : Server} (bound : bind config secret = .ok s) :
    s = start config secret s.address Request.complaint ∧ 0 < config.parties := by
  unfold bind at bound
  split at bound
  · cases bound
  · rename_i valid
    split at bound
    · cases bound
    · cases bound
      refine ⟨rfl, Nat.pos_of_ne_zero fun none => ?_⟩
      simp [ServerConfig.validate, ServerConfig.rules, Settings.firstBroken, none] at valid

theorem exhaust_run (s : Server) (i : Nat) (moved : Bool) (fuel : Nat) :
    ∃ ops, (s.exhaust i moved fuel).1 = s.run ops := by
  induction fuel generalizing s moved with
  | zero => exact ⟨[], rfl⟩
  | succ fuel ih =>
    unfold exhaust anyTurn
    cases looked : s.turn i .look with
    | some s' =>
      obtain ⟨ops, same⟩ := ih s' true
      exact ⟨.turn i .look :: ops, by simpa [perform, looked] using same⟩
    | none =>
      cases took : s.turn i .input with
      | none => exact ⟨[], by simp⟩
      | some s' =>
        obtain ⟨ops, same⟩ := ih s' true
        exact ⟨.turn i .input :: ops, by simpa [perform, took] using same⟩

theorem round_run (s : Server) : ∃ ops, s.round.1 = s.run ops := by
  have sweep : ∀ (fuel : Nat) (places : List Nat) (s : Server) (moved : Bool), ∃ ops,
      (places.foldl (fun reached i => reached.1.exhaust i reached.2 fuel) (s, moved)).1 = s.run ops := by
    intro fuel places
    induction places with
    | nil => exact fun s moved => ⟨[], rfl⟩
    | cons i places ih =>
      intro s moved
      obtain ⟨first, same⟩ := s.exhaust_run i moved fuel
      obtain ⟨rest, same'⟩ := ih (s.exhaust i moved fuel).1 (s.exhaust i moved fuel).2
      exact ⟨first ++ rest, by rw [run_append, ← same]; exact same'⟩
  exact sweep s.effort (List.range s.lines.size) s false

/-- Letting the connections take turns until nothing moves is a run. -/
theorem settle_run (s : Server) : ∃ ops, s.settle = s.run ops := by
  have again : ∀ (fuel : Nat) (s : Server), ∃ ops, s.rounds fuel = s.run ops := by
    intro fuel
    induction fuel with
    | zero => exact fun s => ⟨[], rfl⟩
    | succ fuel ih =>
      intro s
      obtain ⟨first, same⟩ := s.round_run
      unfold rounds
      rcases turned : s.round with ⟨s', moved⟩
      rw [turned] at same
      cases moved with
      | false => exact ⟨first, same⟩
      | true =>
        obtain ⟨rest, same'⟩ := ih s'
        exact ⟨first ++ rest, by rw [run_append, ← same]; exact same'⟩
  exact again s.effort s

/-- What was shown at the barrier of a key. -/
def eventsAt (key : PartitionKey) (h : List Event) : List (Barrier.Event Nat) :=
  h.filterMap (Event.at? key)

@[simp] theorem eventsAt_nil (key : PartitionKey) : eventsAt key [] = [] := rfl

@[simp] theorem eventsAt_barrier_cons (key : PartitionKey) (e : Barrier.Event Nat) (h : List Event) :
    eventsAt key (.barrier key e :: h) = e :: eventsAt key h := by
  simp [eventsAt, Event.at?]

@[simp] theorem eventsAt_append (key : PartitionKey) (h es : List Event) :
    eventsAt key (h ++ es) = eventsAt key h ++ eventsAt key es :=
  List.filterMap_append

theorem eventsAt_eq_nil {key : PartitionKey} {h : List Event} (elsewhere : ∀ e, .barrier key e ∉ h) :
    eventsAt key h = [] := by
  refine List.filterMap_eq_nil_iff.mpr fun e member => ?_
  cases e with
  | barrier k e =>
    have other : k ≠ key := by
      rintro rfl
      exact elsewhere e member
    simp [Event.at?, other]
  | _ => rfl

theorem at?_eq_some {key : PartitionKey} {shown : Event} {e : Barrier.Event Nat} :
    shown.at? key = some e ↔ shown = .barrier key e := by
  cases shown with
  | barrier k e' =>
    by_cases here : k = key
    · simp [Event.at?, here]
    · simp [Event.at?, here]
  | _ => simp [Event.at?]

theorem mem_eventsAt {key : PartitionKey} {h : List Event} {e : Barrier.Event Nat} :
    e ∈ eventsAt key h ↔ .barrier key e ∈ h := by
  simp [eventsAt, List.mem_filterMap, at?_eq_some]

@[simp] theorem eventsAt_map_barrier (key k : PartitionKey) (es : List (Barrier.Event Nat)) :
    eventsAt key (es.map (.barrier k)) = if k = key then es else [] := by
  by_cases same : k = key
  · simp [eventsAt, List.filterMap_map, Function.comp_def, Event.at?, same]
  · simp [eventsAt, List.filterMap_map, Function.comp_def, Event.at?, same]

/-! ### Rest -/

/-- Nothing can move any more. -/
def AtRest (s : Server) : Prop :=
  ∀ i t, s.turn i t = none

end Server
end Lockstep
