import Lockstep.Proofs.Server.Lines

namespace Lockstep

namespace Server

/-- A request is taken, or a response is written, by a server in this state. -/
inductive Said where
  | asked (server : Server) (request : Request)
  | told (server : Server) (response : Response)

/-- What an event says on a connection. -/
def Said.of? (i : Nat) (s : Server) : Event → Option Said
  | .dispatched j request => if j = i then some (.asked s request) else none
  | .sent j response _ => if j = i then some (.told s response) else none
  | _ => none

/-- What is said on a connection, in order. -/
def dialogue (i : Nat) (s : Server) : List Operation → List Said
  | [] => []
  | op :: ops => (s.events op).filterMap (Said.of? i s) ++ (s.perform op).dialogue i ops

/-- The body of a frame that was decoded on the connection. -/
def Event.decodedOn? (i : Nat) : Event → Option Bytes
  | .decoded j body => if j = i then some body else none
  | _ => none

def Operation.bytesFor (i : Nat) : Operation → Bytes
  | .receive j bytes => if j = i then bytes else []
  | _ => []

/-- The bytes that a connection receives while it is there. -/
def received (i : Nat) (s : Server) : List Operation → Bytes
  | [] => []
  | op :: ops => (if i < s.lines.size then op.bytesFor i else []) ++ (s.perform op).received i ops

/-- A request and its response, and the server when the one was taken and when the other was written. -/
structure Exchange where
  request : Request
  asked : Server
  response : Response
  told : Server

def Exchange.said (e : Exchange) : List Said :=
  [.asked e.asked e.request, .told e.told e.response]

/-- The keys that were asked for, in order. -/
def keysOf (requests : List Request) : List PartitionKey :=
  requests.flatMap Request.issues

/-- The response answers the request, where these requests came before on the connection. -/
inductive Exchange.Right (i : Nat) (earlier : List Request) : Exchange → Prop
  | atOnce {request : Request} {s : Server} {response : Response} :
      request.answer? s.service.registry (keysOf earlier) = some response → Right i earlier ⟨request, s, response, s⟩
  /-- A wait on the barrier of the key that the handle stands for was open, and a poll finished it. -/
  | waited {h : Handle} {timeout : Option Nat} {s s' : Server} {line : Line} {key : PartitionKey}
      {place : Registry.Place} {w : Barrier.Wait} {result : Barrier.Result} : keyOf? (keysOf earlier) h = some key →
      s'.lines[i]? = some line → line.session.openWait? = some (key, place, w) →
      w.timeout = timeout.orElse (fun _ => s.service.config.waitTimeout) →
      ((s'.service.registry.barrierFor key).poll s'.now w).2.1 = .done result →
      Right i earlier ⟨.wait h timeout, s, Session.responseOf result, s'⟩

/-- How a conversation has gone since the welcome. -/
structure Conversation where
  /-- The server when the welcome was written. -/
  welcomed : Server
  exchanges : List Exchange := []
  /-- The last request, while it has no answer. -/
  pending : Option (Server × Request) := none
  /-- The frame that holds no request and ends the connection. -/
  malformed : Option Bytes := none
  /-- The response that ends the connection. -/
  farewell : Option (Server × Response) := none

namespace Conversation

def answered (c : Conversation) : List Request :=
  c.exchanges.map (·.request)

/-- All requests that were taken. -/
def requests (c : Conversation) : List Request :=
  c.answered ++ c.pending.toList.map (·.2)

def said (c : Conversation) (welcome : Response) : List Said :=
  .told c.welcomed welcome :: c.exchanges.flatMap Exchange.said ++ c.pending.toList.map (fun (s, r) => .asked s r) ++
    c.farewell.toList.map fun (s, r) => .told s r

/-- The responses that were written after the welcome. -/
def responses (c : Conversation) : List Response :=
  c.exchanges.map (·.response) ++ c.farewell.toList.map (·.2)

/-- The conversation is right and has come as far as the session has. -/
structure Fits (c : Conversation) (i : Nat) (session : Session) (decoded : List Bytes) : Prop where
  /-- The frames after the first one are the requests, in order, and the one that ends the connection. -/
  taken : ∃ hello bodies, decoded = hello :: bodies ++ c.malformed.toList ∧
    bodies.map Request.decode? = c.requests.map some
  malformed : ∀ body, c.malformed = some body → Request.decode? body = none
  right : ∀ before e after, c.exchanges = before ++ e :: after → e.Right i (before.map (·.request))
  farewell : ∀ s response, c.farewell = some (s, response) → ∃ message, response = .error .protocolViolation message
  live : session.hasEnded = false → c.malformed = none ∧ c.farewell = none ∧ session.keys = keysOf c.requests
  serving : session.phase = .serving → c.pending = none
  waiting : ∀ {h place w}, session.phase = .waiting h place w → ∃ s timeout key, c.pending = some (s, .wait h timeout) ∧
    session.openWait? = some (key, place, w) ∧ keyOf? (keysOf c.answered) h = some key ∧
    w.timeout = timeout.orElse (fun _ => s.service.config.waitTimeout)

variable {c : Conversation} {i : Nat}

/-- The next request is answered at once. -/
def exchange (c : Conversation) (e : Exchange) : Conversation :=
  { c with exchanges := c.exchanges ++ [e] }

/-- The next request is taken and has no answer yet. -/
def ask (c : Conversation) (s : Server) (request : Request) : Conversation :=
  { c with pending := some (s, request) }

/-- The request that was taken last is answered. -/
def answer (c : Conversation) (e : Exchange) : Conversation :=
  { c with exchanges := c.exchanges ++ [e], pending := none }

theorem said_exchange (done : c.pending = none) (goes : c.farewell = none) (welcome : Response) (e : Exchange) :
    (c.exchange e).said welcome = c.said welcome ++ e.said := by
  simp [said, exchange, done, goes]

theorem said_ask (done : c.pending = none) (goes : c.farewell = none) (welcome : Response) (s : Server)
    (request : Request) : (c.ask s request).said welcome = c.said welcome ++ [.asked s request] := by
  simp [said, ask, done, goes]

theorem said_answer {s s' : Server} {request : Request} (open_ : c.pending = some (s, request))
    (goes : c.farewell = none) (welcome response : Response) :
    (c.answer ⟨request, s, response, s'⟩).said welcome = c.said welcome ++ [.told s' response] := by
  simp [said, answer, open_, goes, Exchange.said]

theorem said_goodbye (goes : c.farewell = none) (welcome : Response) (s : Server) (response : Response) :
    ({ c with farewell := some (s, response) } : Conversation).said welcome = c.said welcome ++ [.told s response] := by
  simp [said, goes]

private theorem right_snoc {exchanges : List Exchange} {e : Exchange}
    (right : ∀ before e after, exchanges = before ++ e :: after → e.Right i (before.map (·.request)))
    (last : e.Right i (exchanges.map (·.request))) :
    ∀ before e' after, exchanges ++ [e] = before ++ e' :: after → e'.Right i (before.map (·.request)) := by
  intro before e' after same
  rcases List.eq_nil_or_concat after with rfl | ⟨after, e'', rfl⟩
  · obtain ⟨rfl, same⟩ := List.append_inj' same rfl
    obtain rfl : e = e' := by simpa using same
    exact last
  · rw [List.concat_eq_append, ← List.cons_append, ← List.append_assoc] at same
    exact right before e' after (List.append_inj' same rfl).1

variable {c : Conversation} {s : Server} {i : Nat} {session session' : Session}
  {decoded : List Bytes} {body : Bytes} {request : Request}

/-- One more frame was taken, and it held a request. -/
private theorem Fits.taken_ask (fits : c.Fits i session decoded) (live : session.hasEnded = false)
    (done : c.pending = none) (read : Request.decode? body = some request) :
    ∃ hello bodies, decoded ++ [body] = hello :: bodies ∧
      bodies.map Request.decode? = (c.answered ++ [request]).map some := by
  obtain ⟨hello, bodies, rfl, requests⟩ := fits.taken
  obtain ⟨whole, _, _⟩ := fits.live live
  refine ⟨hello, bodies ++ [body], by simp [whole], ?_⟩
  simp only [Conversation.requests, done, Option.toList_none, List.map_nil, List.append_nil] at requests
  rw [List.map_append, requests, List.map_append, List.map_singleton, List.map_singleton, read]

theorem Fits.exchange (fits : c.Fits i session decoded) (serving : session.phase = .serving)
    (read : Request.decode? body = some request) {e : Exchange} (asks : e.request = request)
    (right : e.Right i c.answered) (serving' : session'.phase = .serving)
    (keys : session'.keys = session.keys ++ request.issues) : (c.exchange e).Fits i session' (decoded ++ [body]) := by
  have live := Session.live_of_serving serving
  have done := fits.serving serving
  obtain ⟨whole, open_, known⟩ := fits.live live
  obtain ⟨hello, bodies, taken, requests⟩ := fits.taken_ask live done read
  refine ⟨⟨hello, bodies, ?_, ?_⟩, fits.malformed, right_snoc fits.right right, fits.farewell, fun _ => ?_, fun _ => done,
    fun waiting => ?_⟩
  · rw [taken]
    simp [Conversation.exchange, whole]
  · simpa [Conversation.requests, Conversation.exchange, answered, done, asks] using requests
  · refine ⟨whole, open_, ?_⟩
    rw [keys, known]
    simp [Conversation.requests, Conversation.exchange, answered, done, keysOf, asks]
  · rw [serving'] at waiting
    cases waiting

theorem Fits.ask (fits : c.Fits i session decoded) (serving : session.phase = .serving)
    (read : Request.decode? body = some request)
    (live' : session'.hasEnded = false → request.issues = [] ∧ session'.keys = session.keys)
    (notServing : session'.phase ≠ .serving)
    (waiting' : ∀ {h place w}, session'.phase = .waiting h place w → ∃ timeout key, request = .wait h timeout ∧
      session'.openWait? = some (key, place, w) ∧ keyOf? session.keys h = some key ∧
      w.timeout = timeout.orElse (fun _ => s.service.config.waitTimeout)) :
    (c.ask s request).Fits i session' (decoded ++ [body]) := by
  have live := Session.live_of_serving serving
  have done := fits.serving serving
  obtain ⟨whole, open_, known⟩ := fits.live live
  obtain ⟨hello, bodies, taken, requests⟩ := fits.taken_ask live done read
  have answered_eq : c.requests = c.answered := by simp [Conversation.requests, done]
  refine ⟨⟨hello, bodies, ?_, ?_⟩, fits.malformed, fits.right, fits.farewell, fun alive => ?_,
    fun serving' => absurd serving' notServing, fun waiting => ?_⟩
  · rw [taken]
    simp [Conversation.ask, whole]
  · simpa [Conversation.requests, Conversation.ask, answered] using requests
  · obtain ⟨issues, keys⟩ := live' alive
    refine ⟨whole, open_, ?_⟩
    rw [keys, known, answered_eq]
    simp [Conversation.requests, Conversation.ask, answered, keysOf, issues]
  · obtain ⟨timeout, key, rfl, opened, bound, limit⟩ := waiting' waiting
    rw [known, answered_eq] at bound
    exact ⟨s, timeout, key, rfl, opened, bound, limit⟩

/-- What a session holds of its stream does not matter. -/
theorem Fits.congr (fits : c.Fits i session decoded) (phase : session'.phase = session.phase)
    (handles : session'.handles = session.handles) : c.Fits i session' decoded := by
  have live : session'.hasEnded = session.hasEnded := by simp [Session.hasEnded, phase]
  have keys : session'.keys = session.keys := by rw [Session.keys, handles, Session.keys]
  have opened := Session.openWait?_congr phase handles
  refine ⟨fits.taken, fits.malformed, fits.right, fits.farewell, ?_, ?_, ?_⟩
  · rw [live, keys]
    exact fits.live
  · rw [phase]
    exact fits.serving
  · rw [phase, opened]
    exact fits.waiting

/-- The session ends, and nothing more is said. -/
theorem Fits.ended (fits : c.Fits i session decoded) {how : Session.Ending} (ended : session'.phase = .ended how) :
    c.Fits i session' decoded where
  taken := fits.taken
  malformed := fits.malformed
  right := fits.right
  farewell := fits.farewell
  live := fun alive => by simp [Session.hasEnded_of_ended ended] at alive
  serving := fun serving => by simp [ended] at serving
  waiting := fun waiting => by simp [ended] at waiting

/-- The session ends with one more response. -/
theorem Fits.goodbye (fits : c.Fits i session decoded) {how : Session.Ending} (ended : session'.phase = .ended how)
    (message : String) :
    ({ c with farewell := some (s, .error .protocolViolation message) } : Conversation).Fits i session' decoded where
  taken := fits.taken
  malformed := fits.malformed
  right := fits.right
  farewell := fun s' response last => by
    cases last
    exact ⟨message, rfl⟩
  live := fun alive => by simp [Session.hasEnded_of_ended ended] at alive
  serving := fun serving => by simp [ended] at serving
  waiting := fun waiting => by simp [ended] at waiting

/-- The session ends with a frame that holds no request. -/
theorem Fits.unreadable (fits : c.Fits i session decoded) (live : session.hasEnded = false)
    (read : Request.decode? body = none) {how : Session.Ending} (ended : session'.phase = .ended how) :
    ({ c with malformed := some body } : Conversation).Fits i session' (decoded ++ [body]) where
  taken := by
    obtain ⟨hello, bodies, rfl, requests⟩ := fits.taken
    obtain ⟨whole, _, _⟩ := fits.live live
    exact ⟨hello, bodies, by simp [whole], requests⟩
  malformed := fun body' same => by
    cases same
    exact read
  right := fits.right
  farewell := fits.farewell
  live := fun alive => by simp [Session.hasEnded_of_ended ended] at alive
  serving := fun serving => by simp [ended] at serving
  waiting := fun waiting => by simp [ended] at waiting

/-- The wait stays open. -/
theorem Fits.stillWaiting (fits : c.Fits i session decoded) {h : Handle} {place : Registry.Place} {w w' : Barrier.Wait}
    (waiting : session.phase = .waiting h place w) (waiting' : session'.phase = .waiting h place w')
    (handles : session'.handles = session.handles) (timeout : w'.timeout = w.timeout) :
    c.Fits i session' decoded where
  taken := fits.taken
  malformed := fits.malformed
  right := fits.right
  farewell := fits.farewell
  live := fun _ => by
    have keys : session'.keys = session.keys := by rw [Session.keys, handles, Session.keys]
    rw [keys]
    exact fits.live (Session.live_of_waiting waiting)
  serving := fun serving => by simp [waiting'] at serving
  waiting := fun {h' place' w''} again => by
    obtain ⟨s, limit, key, pending, opened, bound, same⟩ := fits.waiting waiting
    rw [waiting', Session.Phase.waiting.injEq] at again
    obtain ⟨rfl, rfl, rfl⟩ := again
    refine ⟨s, limit, key, pending, ?_, bound, timeout.trans same⟩
    obtain ⟨_, place'', phase, found⟩ := Session.waiting_of_openWait? opened
    rw [waiting, Session.Phase.waiting.injEq] at phase
    obtain ⟨rfl, _, _⟩ := phase
    have found' : session'.binding? h = some (key, place'') := by simpa [Session.binding?, handles] using found
    simp [Session.openWait?, waiting', found']

theorem Fits.answer (fits : c.Fits i session decoded) {h : Handle} {place : Registry.Place} {w : Barrier.Wait}
    {line : Line} {b : Barrier} {result : Barrier.Result} (found : s.lines[i]? = some line) (same : line.session = session)
    (bound : session.Bound s.service.registry) (waiting : session.phase = .waiting h place w)
    (there : s.service.registry.barrier? place = some b) (polled : (b.poll s.now w).2.1 = .done result)
    (serving' : session'.phase = .serving) (handles : session'.handles = session.handles) :
    ∃ s₀ timeout, c.pending = some (s₀, .wait h timeout) ∧
      (c.answer ⟨.wait h timeout, s₀, Session.responseOf result, s⟩).Fits i session' decoded := by
  obtain ⟨s₀, timeout, key, pending, opened, known, limit⟩ := fits.waiting waiting
  obtain ⟨_, _, _, located⟩ := bound.waiting_of_openWait? opened
  have barrier : s.service.registry.barrierFor key = b := by
    rw [Registry.barrier?_of_find? located] at there
    exact Option.some.inj there
  have right : Exchange.Right i c.answered ⟨.wait h timeout, s₀, Session.responseOf result, s⟩ := by
    refine .waited known found (by rw [same]; exact opened) limit ?_
    rw [barrier]
    exact polled
  obtain ⟨whole, open_, keys⟩ := fits.live (Session.live_of_waiting waiting)
  refine ⟨s₀, timeout, pending, ?_, fits.malformed, right_snoc fits.right right, fits.farewell, fun _ => ?_, fun _ => rfl,
    fun waiting' => ?_⟩
  · obtain ⟨hello, bodies, taken, requests⟩ := fits.taken
    refine ⟨hello, bodies, taken, ?_⟩
    simpa [Conversation.requests, Conversation.answer, answered, pending] using requests
  · refine ⟨whole, open_, ?_⟩
    have same : session'.keys = session.keys := by rw [Session.keys, handles, Session.keys]
    rw [same, keys]
    simp [Conversation.requests, Conversation.answer, answered, pending]
  · rw [serving'] at waiting'
    cases waiting'

end Conversation
end Server
end Lockstep
