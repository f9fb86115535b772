import Lockstep.Proofs.Server.Order

namespace Lockstep

/-- The handle that a request is about. -/
def Request.handle? : Request → Option Handle
  | .wait h _ | .status h | .abort h | .reset h => some h
  | .hello _ | .getBarrier _ => none

private theorem Json.asNatural?_le {v : Json} {n : Nat} (read : Json.asNatural? v = some n) : n ≤ Json.maxNatural := by
  unfold Json.asNatural? at read
  split at read
  · unfold Json.natural? at read
    split at read
    · simp only [Option.ite_none_right_eq_some, Option.some.injEq] at read
      rw [← read.2]
      exact read.1
    · cases read
  · cases read

private theorem Json.required?_le {v : Option Json} {n : Nat} (found : Json.required? Json.asNatural? v = some n) :
    n ≤ Json.maxNatural := by
  obtain ⟨value, _, read⟩ := Option.bind_eq_some_iff.mp found
  exact asNatural?_le read

/-- The handle of a request that was read has 64 bits. -/
theorem Request.handle?_le {body : Bytes} {request : Request} {h : Handle} (read : Request.decode? body = some request)
    (about : request.handle? = some h) : h ≤ Json.maxNatural := by
  have alone : ∀ (make : Handle → Request) (v : Json), (∀ h, (make h).handle? = some h) →
      Request.withHandle? make v = some request → h ≤ Json.maxNatural := by
    intro make v known made
    unfold Request.withHandle? at made
    obtain ⟨values, _, made⟩ := Option.bind_eq_some_iff.mp made
    split at made
    · obtain ⟨handle, found, made⟩ := Option.bind_eq_some_iff.mp made
      cases made
      rw [known, Option.some.injEq] at about
      rw [← about]
      exact Json.required?_le found
    · cases made
  obtain ⟨json, _, fields⟩ := Option.bind_eq_some_iff.mp read
  obtain ⟨⟨name, v⟩, _, fields⟩ := Option.bind_eq_some_iff.mp fields
  simp only [Request.ofFields?] at fields
  split_ifs at fields
  · obtain ⟨values, _, made⟩ := Option.bind_eq_some_iff.mp fields
    split at made
    · obtain ⟨secret, _, made⟩ := Option.bind_eq_some_iff.mp made
      cases made
      cases about
    · cases made
  · obtain ⟨values, _, made⟩ := Option.bind_eq_some_iff.mp fields
    split at made
    · obtain ⟨secret, _, made⟩ := Option.bind_eq_some_iff.mp made
      cases made
      cases about
    · cases made
  · obtain ⟨values, _, made⟩ := Option.bind_eq_some_iff.mp fields
    split at made
    · obtain ⟨handle, found, made⟩ := Option.bind_eq_some_iff.mp made
      obtain ⟨timeout, _, made⟩ := Option.bind_eq_some_iff.mp made
      cases made
      cases about
      exact Json.required?_le found
    · cases made
  · exact alone _ _ (fun _ => rfl) fields
  · exact alone _ _ (fun _ => rfl) fields
  · exact alone _ _ (fun _ => rfl) fields

namespace Session
open Server

variable {service : Service} {now : Nat} {s c : Session} {t : Turn} {m : Moved} {request : Request}

/-- A request is what the next frame holds. -/
private theorem read_of_request (asks : s.request? = some request) :
    s.phase = .serving ∧ ∃ body, s.frame? = some body ∧ Request.decode? body = some request := by
  unfold request? at asks
  split at asks
  · rename_i body serving framed
    exact ⟨serving, body, framed, asks⟩
  · cases asks

/-- A turn of input takes the next frame. -/
theorem turn_of_frame (service : Service) (now : Nat) (serving : s.phase = .serving) {body : Bytes}
    (framed : s.frame? = some body) : s.turn service now .input = some (s.taken.serve service body) := by
  cases aside : s.backlog with
  | cons first backlog =>
    obtain rfl : first = body := by simpa [frame?, serving, aside] using framed
    simp [turn, takeInput, taken, serving, aside]
  | nil =>
    have item : s.inlet.next.1 = .frame body := by
      cases found : s.inlet.next.1 <;> simp_all [frame?]
    simp [turn, takeInput, takeItem, taken, serving, aside, item]

/-- A turn that takes a request carries it out. -/
private theorem turn_of_request (service : Service) (now : Nat) (asks : s.request? = some request) :
    s.turn service now .input = some (s.taken.dispatch service request) := by
  obtain ⟨serving, body, framed, read⟩ := read_of_request asks
  rw [turn_of_frame service now serving framed, serve, read]

end Session

namespace Server

/-- The request that was taken on the connection. -/
def Event.requestOn? (i : Nat) : Event → Option Request
  | .dispatched j request => if j = i then some request else none
  | _ => none

/-- The requests that were taken on a connection, in order. -/
def requestsOn (i : Nat) (h : List Event) : List Request :=
  h.filterMap (Event.requestOn? i)

/-- The responses that were written to a connection, in order. -/
def responsesTo (i : Nat) (h : List Event) : List Response :=
  h.filterMap (Event.responseTo? i)

variable {s : Server} {i : Nat} {h es : List Event} {request : Request}

@[simp] theorem requestsOn_nil (i : Nat) : requestsOn i [] = [] := rfl

@[simp] theorem responsesTo_nil (i : Nat) : responsesTo i [] = [] := rfl

@[simp] theorem requestsOn_append (i : Nat) (h es : List Event) :
    requestsOn i (h ++ es) = requestsOn i h ++ requestsOn i es :=
  List.filterMap_append

@[simp] theorem responsesTo_append (i : Nat) (h es : List Event) :
    responsesTo i (h ++ es) = responsesTo i h ++ responsesTo i es :=
  List.filterMap_append

private theorem mem_requestsOn : request ∈ requestsOn i h ↔ .dispatched i request ∈ h := by
  have each : ∀ e, Event.requestOn? i e = some request ↔ e = .dispatched i request := by
    intro e
    cases e with
    | dispatched j r =>
      by_cases same : j = i
      · simp [Event.requestOn?, same]
      · simp [Event.requestOn?, same]
    | _ => simp [Event.requestOn?]
  simp [requestsOn, List.mem_filterMap, each]

theorem requestsOn_of_others (others : ∀ e ∈ es, e.connection ≠ i) : requestsOn i es = [] := by
  refine List.filterMap_eq_nil_iff.mpr fun e member => ?_
  have other := others e member
  cases e with
  | dispatched j r => exact if_neg other
  | _ => rfl

/-- The request that was taken. -/
def Said.request? : Said → Option Request
  | .asked _ request => some request
  | .told _ _ => none

theorem requestsOn_turnEvents (s : Server) {session : Session} {service : Service} {now : Nat} {t : Session.Turn}
    {m : Session.Moved} : requestsOn i (session.turnEvents service now i t m) =
      if t = .input then session.request?.toList else [] := by
  have each : ∀ e, Event.requestOn? i e = (Said.of? i s e).bind Said.request? := by
    intro e
    cases e with
    | dispatched j r => by_cases same : j = i <;> simp [Event.requestOn?, Said.of?, Said.request?, same]
    | sent j r about => by_cases same : j = i <;> simp [Event.requestOn?, Said.of?, Said.request?, same]
    | _ => rfl
  have said := @Session.said_turnEvents service now i session t m s
  rw [requestsOn, List.filterMap_congr fun e _ => each e, ← List.filterMap_filterMap, said]
  have told : (m.sent.map (Said.told s)).toList.filterMap Said.request? = [] := by
    cases m.sent <;> rfl
  rw [List.filterMap_append, told, List.append_nil]
  split
  · cases session.request? <;> rfl
  · rfl

/-- What an operation comes to with which a connection takes a request. -/
structure Takes (s : Server) (i : Nat) (request : Request) (es : List Event) (s' : Server) (line : Line) : Prop where
  found : s.lines[i]? = some line
  asks : line.session.request? = some request
  serving : line.session.phase = .serving
  frame : ∃ body, .decoded i body ∈ es ∧ Request.decode? body = some request
  service : s'.service =
    { s.service with registry := (line.session.taken.dispatch s.service request).registry }
  meter : s'.meter = s.meter + (line.session.taken.dispatch s.service request).meter
  after : ∃ outgoing, s'.lines[i]? = some ⟨(line.session.taken.dispatch s.service request).session, outgoing⟩
  others : ∀ j, j ≠ i → s'.lines[j]? = s.lines[j]?
  responses : responsesTo i es = (line.session.taken.dispatch s.service request).sent.toList

theorem takes_of_dispatched {op : Operation} (member : .dispatched i request ∈ s.events op) :
    op = .turn i .input ∧ ∃ line, Takes s i request (s.events op) (s.perform op) line := by
  cases op with
  | turn j t =>
    cases found : s.lines[j]? with
    | none => simp [events, found] at member
    | some line =>
      cases moved : line.session.turn s.service s.now t with
      | none => simp [events, found, moved] at member
      | some m =>
        have shows : s.events (.turn j t) = line.session.turnEvents s.service s.now j t m := by
          simp [events, found, moved]
        rw [shows] at member ⊢
        obtain rfl : i = j := Session.connection_turnEvents _ member
        rw [← mem_requestsOn, requestsOn_turnEvents s] at member
        split at member
        · rename_i input
          subst input
          have asks : line.session.request? = some request := by simpa using member
          obtain ⟨serving, body, framed, read⟩ := Session.read_of_request asks
          have acted := acted_of_turn found moved
          rw [Session.turn_of_request s.service s.now asks, Option.some.injEq] at moved
          subst moved
          refine ⟨rfl, line, found, asks, serving, ⟨body, ?_, read⟩, acted.service, acted.meter,
            ⟨_, acted.here found⟩, fun k other => acted.elsewhere found other, Session.responseTo?_turnEvents⟩
          simp [Session.turnEvents, Session.readEvents, framed]
        · simp at member
  | cut j =>
    simp only [events] at member
    split at member
    · split at member
      · cases member
      · unfold Session.dropEvents at member
        split at member <;> simp at member
    · cases member
  | _ => simp [events] at member

theorem responsesTo_of_others (others : ∀ e ∈ es, e.connection ≠ i) : responsesTo i es = [] :=
  responseTo?_eq_nil others

/-- What holds of a connection that is new, with its requests and responses, and stays whatever happens to it. -/
structure Kept (config : ServerConfig) (P : Session → List Request → List Response → Prop) : Prop where
  new : P .new [] []
  /-- The peer writes or closes. -/
  heard : ∀ {session session' : Session} {requests responses}, P session requests responses →
    session'.phase = session.phase → session'.handles = session.handles → P session' requests responses
  turned : ∀ {service : Service} {now : Nat} {session : Session} {t : Session.Turn} {m : Session.Moved}
    {requests responses}, P session requests responses → service.config = config →
    service.registry.options = config.barrierOptions → session.Bound service.registry →
    session.turn service now t = some m →
    P m.session (requests ++ if t = .input then session.request?.toList else []) (responses ++ m.sent.toList)
  cut : ∀ {session : Session} {requests responses}, P session requests responses → session.hasEnded = false →
    P { session with phase := .ended .closed, backlog := [] } requests responses

section
variable {config : ServerConfig} {P : Session → List Request → List Response → Prop}

/-- What is known of a connection, if it is there. -/
def Known (P : Session → List Request → List Response → Prop) (i : Nat) (s : Server) (h : List Event) : Prop :=
  match s.lines[i]? with
  | some line => P line.session (requestsOn i h) (responsesTo i h)
  | none => requestsOn i h = [] ∧ responsesTo i h = []

private theorem Known.step (kept : Kept config P) (known : Known P i s h) (linked : s.Linked)
    (service : s.service.config = config) (options : s.service.registry.options = config.barrierOptions)
    (op : Operation) : Known P i (s.perform op) (h ++ s.events op) := by
  unfold Known at known ⊢
  rw [requestsOn_append, responsesTo_append]
  cases found : s.lines[i]? with
  | none =>
    rw [found] at known
    have others := events_absent found op
    rw [known.1, known.2, requestsOn_of_others others, responsesTo_of_others others]
    cases there : (s.perform op).lines[i]? with
    | none => exact ⟨rfl, rfl⟩
    | some line' =>
      obtain rfl := line_new found op there
      exact kept.new
  | some line =>
    rw [found] at known
    obtain ⟨line', there, step⟩ := line_step found op
    rw [there]
    cases step with
    | same others _ =>
      rw [requestsOn_of_others others, responsesTo_of_others others, List.append_nil, List.append_nil]
      exact known
    | received bytes =>
      rw [show s.events (.receive i bytes) = [] from rfl, requestsOn_nil, responsesTo_nil, List.append_nil,
        List.append_nil]
      exact kept.heard known rfl rfl
    | closed gone which =>
      have silent : s.events op = [] := by rcases which with rfl | rfl <;> rfl
      rw [silent, requestsOn_nil, responsesTo_nil, List.append_nil, List.append_nil]
      exact kept.heard known rfl rfl
    | @turned t m moved =>
      have shows : s.events (.turn i t) = line.session.turnEvents s.service s.now i t m := by
        simp [events, found, moved]
      have responses : responsesTo i (s.events (.turn i t)) = m.sent.toList := by
        rw [shows, responsesTo, Session.responseTo?_turnEvents]
      rw [responses, shows, requestsOn_turnEvents s]
      exact kept.turned known service options (linked found) moved
    | cut live =>
      have nothing : requestsOn i (s.events (.cut i)) = [] ∧ responsesTo i (s.events (.cut i)) = [] := by
        constructor
        · refine List.filterMap_eq_nil_iff.mpr fun e member => ?_
          obtain ⟨key, b, rfl⟩ := s.events_cut i e member
          rfl
        · refine List.filterMap_eq_nil_iff.mpr fun e member => ?_
          obtain ⟨key, b, rfl⟩ := s.events_cut i e member
          rfl
      rw [nothing.1, nothing.2, List.append_nil, List.append_nil]
      exact kept.cut known live

/-- What holds of new connections and is kept holds of all connections in every run. -/
theorem Kept.run (kept : Kept config P) (secret : Secret) (address : Address) (complaint : Bytes → String)
    (ops : List Operation) {line : Line}
    (found : ((start config secret address complaint).run ops).lines[i]? = some line) :
    P line.session (requestsOn i ((start config secret address complaint).history ops))
      (responsesTo i ((start config secret address complaint).history ops)) := by
  have all : ∀ (ops : List Operation) (s : Server) (h : List Event), Known P i s h → s.Linked →
      s.service.config = config → s.service.registry.options = config.barrierOptions →
        Known P i (s.run ops) (h ++ s.history ops) := by
    intro ops
    induction ops with
    | nil => exact fun s h known _ _ _ => by simpa using known
    | cons op ops ih =>
      intro s h known linked service options
      have step := perform_step s op
      have turned := step.turned linked
      rw [run_cons, history_cons, ← List.append_assoc]
      exact ih _ _ (known.step kept linked service options op) turned.linked (by rw [step.service]; exact service)
        (turned.more.options.trans options)
  have fresh : Known P i (start config secret address complaint) [] := by simp [Known, start]
  have known := all ops _ [] fresh (fun found => by simp [start] at found) rfl rfl
  unfold Known at known
  rwa [found] at known

end

end Server
end Lockstep
