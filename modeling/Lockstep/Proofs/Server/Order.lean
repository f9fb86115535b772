import Lockstep.Proofs.Server.Conversation

/-!
# Requests are answered in order

Whatever chunks the frames of a peer come in and whatever else happens, the
frames are decoded in the order in which they were sent, none twice and none
left out. Behind an open wait they are put aside, so what was decoded, what was
put aside and what is not read yet are always the whole of what was sent.
-/
namespace Lockstep

namespace Session
open Server

variable {service : Service} {now i : Nat} {s : Session} {t : Turn} {m : Moved} {server : Server}

/-- The request that the next turn of input takes. -/
def request? (s : Session) : Option Request :=
  match s.phase, s.frame? with
  | .serving, some body => Request.decode? body
  | _, _ => none

/-- Beginning, polling and giving up a wait says nothing. -/
private theorem filterMap_turnEvents {α : Type} {f : Event → Option α} (barrier : ∀ key e, f (.barrier key e) = none)
    (opened : ∀ key, f (.opened i key) = none) : ∃ about,
    (s.turnEvents service now i t m).filterMap f = (if t = .input then (s.readEvents service i).filterMap f else []) ++
      (m.sent.map fun r => Event.sent i r about).toList.filterMap f := by
  have atBarrier : ∀ key (es : List (Barrier.Event Nat)), (es.map (Event.barrier key)).filterMap f = [] := by
    intro key es
    rw [List.filterMap_map]
    exact List.filterMap_eq_nil_iff.mpr fun e _ => barrier key e
  have dropped : (s.dropEvents i).filterMap f = [] := by
    unfold dropEvents
    split
    · exact atBarrier _ _
    · rfl
  cases t with
  | look =>
    have polled : (s.pollEvents service now i).filterMap f = [] := by
      unfold pollEvents
      split
      · split
        · exact atBarrier _ _
        · rfl
      · rfl
    exact ⟨s.waited? service, by simp [turnEvents, polled]⟩
  | input =>
    have begins : (openEvents i s m.session).filterMap f = [] := by
      unfold openEvents
      split
      · simp [opened]
      · rfl
    have ends : (if m.session.hasEnded then s.dropEvents i else []).filterMap f = [] := by
      split
      · exact dropped
      · rfl
    exact ⟨none, by simp [turnEvents, begins, ends]⟩

theorem said_turnEvents : (s.turnEvents service now i t m).filterMap (Said.of? i server) =
    (if t = .input then (s.request?.map (.asked server)).toList else []) ++ (m.sent.map (.told server)).toList := by
  obtain ⟨about, parts⟩ :=
    @filterMap_turnEvents service now i s t m _ (Said.of? i server) (fun _ _ => rfl) fun _ => rfl
  have read : (s.readEvents service i).filterMap (Said.of? i server) = (s.request?.map (.asked server)).toList := by
    unfold readEvents request?
    cases found : s.frame? with
    | none => cases s.phase <;> rfl
    | some body =>
      cases phase : s.phase with
      | greeting deadline => by_cases admits : service.admits body <;> simp [admits, Said.of?]
      | serving =>
        have decoded : Said.of? i server (.decoded i body) = none := rfl
        cases read : Request.decode? body with
        | some request =>
          have asked : Said.of? i server (.dispatched i request) = some (.asked server request) := if_pos rfl
          simp [read, decoded, asked]
        | none => simp [read, decoded]
      | waiting h place w => simp [frame?, phase] at found
      | ended how => simp [frame?, phase] at found
  rw [parts, read]
  cases m.sent <;> simp [Said.of?]

theorem decoded_turnEvents : (s.turnEvents service now i t m).filterMap (Event.decodedOn? i) =
    if t = .input then s.frame?.toList else [] := by
  obtain ⟨about, parts⟩ :=
    @filterMap_turnEvents service now i s t m _ (Event.decodedOn? i) (fun _ _ => rfl) fun _ => rfl
  have read : (s.readEvents service i).filterMap (Event.decodedOn? i) = s.frame?.toList := by
    unfold readEvents
    cases s.frame? with
    | none => rfl
    | some body =>
      cases s.phase with
      | greeting deadline => by_cases admits : service.admits body <;> simp [admits, Event.decodedOn?]
      | _ => cases read : Request.decode? body <;> simp [read, Event.decodedOn?]
  rw [parts, read]
  cases m.sent <;> simp [Event.decodedOn?]

/-- Whoever shows the secret with this turn shows it with the frame that is decoded. -/
private theorem frame?_of_authenticated (member : .authenticated i ∈ s.turnEvents service now i t m) :
    t = .input ∧ ∃ body, s.frame? = some body ∧ service.admits body = true := by
  obtain ⟨rfl, here⟩ := mem_readEvents member (.inr rfl)
  refine ⟨rfl, ?_⟩
  unfold readEvents at here
  cases found : s.frame? with
  | none => simp [found] at here
  | some body =>
    rw [found] at here
    cases phase : s.phase with
    | greeting deadline => by_cases admits : service.admits body <;> simp_all
    | _ => cases read : Request.decode? body <;> simp [phase, read] at here

/-- The bytes that the session holds and that are not decoded yet. -/
def undecoded (s : Session) : Bytes :=
  s.backlog.flatMap Frame.frame ++ s.inlet.unread

/-- What was received are the frames that were decoded and, as long as the session lives, what it holds. -/
structure Streams (s : Session) (received : Bytes) (decoded : List Bytes) : Prop where
  small : ∀ body ∈ decoded, body.length ≤ Frame.maxBody
  bytes : ∃ rest, received = decoded.flatMap Frame.frame ++ rest ∧ (s.hasEnded = false → rest = s.undecoded)
  aside : s.hasEnded = false → s.inlet.reader.Fits ∧ ∀ body ∈ s.backlog, body.length ≤ Frame.maxBody
  greeting : ∀ {deadline}, s.phase = .greeting deadline → s.backlog = []

/-- The frame that is decoded next comes first in what the session holds. -/
private theorem undecoded_taken {body : Bytes}
    (live : s.inlet.reader.Fits ∧ ∀ body ∈ s.backlog, body.length ≤ Frame.maxBody)
    (first : (∃ deadline, s.phase = .greeting deadline) → s.backlog = []) (found : s.frame? = some body) :
    s.undecoded = Frame.frame body ++ s.taken.undecoded ∧ body.length ≤ Frame.maxBody ∧ s.taken.inlet.reader.Fits ∧
      ∀ body ∈ s.taken.backlog, body.length ≤ Frame.maxBody := by
  obtain ⟨fits, small⟩ := live
  have fresh : s.backlog = [] → s.inlet.next.1 = .frame body → s.taken = { s with inlet := s.inlet.next.2 } →
      s.undecoded = Frame.frame body ++ s.taken.undecoded ∧ body.length ≤ Frame.maxBody ∧ s.taken.inlet.reader.Fits ∧
        ∀ body ∈ s.taken.backlog, body.length ≤ Frame.maxBody := by
    intro empty item same
    obtain ⟨bytes, short, fits'⟩ := Frame.Inlet.next_frame fits (Prod.ext item rfl)
    rw [same]
    exact ⟨by simp [undecoded, empty, bytes], short, fits', by simp [empty]⟩
  cases phase : s.phase with
  | greeting deadline =>
    refine fresh (first ⟨deadline, phase⟩) ?_ (by simp [taken, phase])
    cases item : s.inlet.next.1 <;> simp_all [frame?]
  | serving =>
    cases aside : s.backlog with
    | nil =>
      refine fresh aside ?_ (by simp [taken, phase, aside])
      cases item : s.inlet.next.1 <;> simp_all [frame?]
    | cons body' backlog =>
      obtain rfl : body' = body := by simpa [frame?, phase, aside] using found
      have same : s.taken = { s with backlog } := by simp [taken, phase, aside]
      rw [same]
      rw [aside] at small
      exact ⟨by simp [undecoded, aside], small _ (List.mem_cons_self ..), fits,
        fun b member => small b (List.mem_cons_of_mem _ member)⟩
  | waiting h place w => simp [frame?, phase] at found
  | ended how => simp [frame?, phase] at found

private theorem Streams.decode {received : Bytes} {decoded : List Bytes} {body : Bytes} {s' : Session}
    (streams : s.Streams received decoded) (live : s.hasEnded = false) (found : s.frame? = some body)
    (greeting : ∀ deadline, s'.phase ≠ .greeting deadline)
    (same : s'.hasEnded = false → s'.inlet = s.taken.inlet ∧ s'.backlog = s.taken.backlog) :
    s'.Streams received (decoded ++ [body]) := by
  obtain ⟨rest, bytes, held⟩ := streams.bytes
  obtain ⟨first, short, fits, small⟩ :=
    undecoded_taken (streams.aside live) (fun ⟨_, phase⟩ => streams.greeting phase) found
  refine ⟨?_, ⟨s.taken.undecoded, ?_, fun alive => ?_⟩, fun alive => ?_, fun phase => absurd phase (greeting _)⟩
  · intro b member
    rcases List.mem_append.mp member with earlier | now
    · exact streams.small b earlier
    · rw [List.mem_singleton.mp now]
      exact short
  · rw [bytes, held live, first]
    simp
  · obtain ⟨inlet, backlog⟩ := same alive
    rw [undecoded, undecoded, inlet, backlog]
  · obtain ⟨inlet, backlog⟩ := same alive
    rw [inlet, backlog]
    exact ⟨fits, small⟩

/-- A session that ends forgets what it holds. -/
private theorem Streams.over {received : Bytes} {decoded : List Bytes} {s' : Session}
    (streams : s.Streams received decoded) (live : s.hasEnded = false) {how : Ending} (ended : s'.phase = .ended how)
    (t : Turn) :
    s'.Streams received (decoded ++ if t = .input then s.frame?.toList else []) := by
  have greeting : ∀ deadline, s'.phase ≠ .greeting deadline := by simp [ended]
  have still : s'.hasEnded = true := by simp [hasEnded, ended]
  have nothing : s'.Streams received (decoded ++ []) := by
    obtain ⟨rest, bytes, _⟩ := streams.bytes
    rw [List.append_nil]
    exact ⟨streams.small, ⟨rest, bytes, by simp [still]⟩, by simp [still], fun phase => absurd phase (greeting _)⟩
  cases t with
  | look => exact nothing
  | input =>
    cases found : s.frame? with
    | none => exact nothing
    | some body => exact streams.decode live found greeting (by simp [still])

/-- A turn that decodes nothing keeps what the session holds, unless the session ends. -/
private theorem Streams.keep {received : Bytes} {decoded : List Bytes} {s' : Session}
    (streams : s.Streams received decoded)
    (live : s.hasEnded = false) (greeting : ∀ deadline, s'.phase ≠ .greeting deadline)
    (same : s'.hasEnded = false → s'.undecoded = s.undecoded ∧ s'.inlet.reader.Fits ∧
      ∀ body ∈ s'.backlog, body.length ≤ Frame.maxBody) : s'.Streams received decoded := by
  obtain ⟨rest, bytes, held⟩ := streams.bytes
  refine ⟨streams.small, ⟨rest, bytes, fun alive => ?_⟩, fun alive => (same alive).2,
    fun phase => absurd phase (greeting _)⟩
  rw [held live, (same alive).1]

/-- A frame that is put aside stays in what the session holds. -/
private theorem Streams.aside_frame {received : Bytes} {decoded : List Bytes} {body : Bytes}
    (streams : s.Streams received decoded) {h : Handle} {place : Registry.Place} {w : Barrier.Wait}
    (waiting : s.phase = .waiting h place w) (item : s.inlet.next.1 = .frame body) :
    ({ s.taken with backlog := s.backlog ++ [body] } : Session).Streams received decoded := by
  have live : s.hasEnded = false := by simp [hasEnded, waiting]
  have same : s.taken = { s with inlet := s.inlet.next.2 } := by simp [taken, waiting]
  obtain ⟨fits, small⟩ := streams.aside live
  obtain ⟨bytes, short, fits'⟩ := Frame.Inlet.next_frame fits (Prod.ext item rfl)
  refine streams.keep live (by simp [waiting]) fun _ => ⟨?_, ?_, ?_⟩
  · rw [same]
    simp [undecoded, bytes]
  · rw [same]
    exact fits'
  · intro b member
    rcases List.mem_append.mp member with earlier | now
    · exact small b earlier
    · rw [List.mem_singleton.mp now]
      exact short

private theorem Streams.received {received : Bytes} {decoded : List Bytes} (streams : s.Streams received decoded)
    (bytes : Bytes) : ({ s with inlet := s.inlet.push bytes } : Session).Streams (received ++ bytes) decoded := by
  obtain ⟨rest, taken, held⟩ := streams.bytes
  refine ⟨streams.small, ⟨rest ++ bytes, by rw [taken, List.append_assoc], fun live => ?_⟩, streams.aside, streams.greeting⟩
  rw [held live]
  simp [undecoded, Frame.Inlet.unread, Frame.Inlet.push]

private theorem Streams.closed {received : Bytes} {decoded : List Bytes} (streams : s.Streams received decoded)
    (gone : Bool) : ({ s with inlet := s.inlet.close, gone } : Session).Streams received decoded :=
  ⟨streams.small, streams.bytes, streams.aside, streams.greeting⟩

private theorem Streams.begin {received : Bytes} {decoded : List Bytes} (streams : s.Streams received decoded)
    (fresh : s.phase = .greeting none) (service : Service) (now : Nat) :
    (s.begin service now).session.Streams received decoded := by
  have live : s.hasEnded = false := by simp [hasEnded, fresh]
  obtain ⟨rest, bytes, held⟩ := streams.bytes
  exact ⟨streams.small, ⟨rest, bytes, fun _ => held live⟩, fun _ => streams.aside live,
    fun _ => streams.greeting fresh⟩

/-- What the session holds does not depend on its phase. -/
private theorem Streams.phase {received : Bytes} {decoded : List Bytes} {phase : Phase}
    (streams : s.Streams received decoded) (live : s.hasEnded = false)
    (greeting : ∀ deadline, phase ≠ .greeting deadline) :
    ({ s with phase } : Session).Streams received decoded :=
  streams.keep live greeting fun _ => ⟨rfl, streams.aside live⟩

end Session

namespace Server

/-- What was received, decoded and said on a connection fits its session; whether it showed the secret, too. -/
structure Course (config : ServerConfig) (i : Nat) (session : Session) (shown : Prop) (received : Bytes)
    (decoded : List Bytes) (said : List Said) : Prop where
  streams : session.Streams received decoded
  greeting : ∀ {deadline}, session.phase = .greeting deadline →
    decoded = [] ∧ said = [] ∧ ¬shown ∧ session.handles = #[]
  live : session.hasEnded = false → (∀ deadline, session.phase ≠ .greeting deadline) → shown
  conversed : shown → (session.hasEnded = true ∧ decoded.length = 1 ∧ said = []) ∨
    ∃ c : Conversation, said = c.said (.welcome config.parties) ∧ c.Fits i session decoded

section
variable {config : ServerConfig} {s : Server} {i : Nat} {line : Line} {shown : Prop} {received : Bytes}
  {decoded : List Bytes} {said : List Said} {t : Session.Turn} {m : Session.Moved}

theorem Course.conversation (course : Course config i line.session shown received decoded said)
    (live : line.session.hasEnded = false) (greeted : ∀ deadline, line.session.phase ≠ .greeting deadline) :
    shown ∧ ∃ c : Conversation, said = c.said (.welcome config.parties) ∧ c.Fits i line.session decoded := by
  have here := course.live live greeted
  refine ⟨here, ?_⟩
  rcases course.conversed here with ⟨ended, _⟩ | conversed
  · rw [live] at ended
    cases ended
  · exact conversed

/-- A conversation that fits is all there is to know of a connection that showed the secret. -/
private theorem Course.of_fits {session : Session} (here : shown) (streams : session.Streams received decoded)
    (greeted : ∀ deadline, session.phase ≠ .greeting deadline) (c : Conversation)
    (spoken : said = c.said (.welcome config.parties)) (fits : c.Fits i session decoded) :
    Course config i session shown received decoded said where
  streams := streams
  greeting := fun greeting => absurd greeting (greeted _)
  live := fun _ _ => here
  conversed := fun _ => .inr ⟨c, spoken, fits⟩

/-- What is known of a connection after a turn. -/
def After (config : ServerConfig) (i : Nat) (s : Server) (session : Session) (t : Session.Turn) (m : Session.Moved)
    (shown : Prop) (received : Bytes) (decoded : List Bytes) (said : List Said) : Prop :=
  Course config i m.session (shown ∨ .authenticated i ∈ session.turnEvents s.service s.now i t m) received
    (decoded ++ if t = .input then session.frame?.toList else [])
    (said ++ ((if t = .input then (session.request?.map (.asked s)).toList else []) ++ (m.sent.map (.told s)).toList))

private theorem Course.welcomed {deadline : Option Nat} {body : Bytes}
    (course : Course config i line.session shown received decoded said)
    (greeting : line.session.phase = .greeting deadline) (first : line.session.frame? = some body)
    (admitted : s.service.admits body = true) (sent : m.sent = some (.welcome config.parties))
    (session : m.session = { line.session.taken with phase := .serving }) :
    After config i s line.session .input m shown received decoded said := by
  obtain ⟨rfl, rfl, _, fresh⟩ := course.greeting greeting
  have live : line.session.hasEnded = false := by simp [Session.hasEnded, greeting]
  have serving : m.session.phase = .serving := by rw [session]
  have handles : m.session.handles = #[] := by
    rw [session]
    exact line.session.handles_taken.trans fresh
  unfold After
  simp only [if_true, first, Option.toList_some]
  refine .of_fits (.inr ?_) ?_ (by simp [serving]) { welcomed := s } ?_ ?_
  · simp [Session.turnEvents, Session.readEvents, first, greeting, admitted]
  · exact course.streams.decode live first (by simp [serving]) fun _ => by rw [session]; exact ⟨rfl, rfl⟩
  · simp [Session.request?, greeting, sent, Conversation.said]
  · refine ⟨⟨body, [], by simp, rfl⟩, by simp, by simp, by simp, fun _ => ⟨rfl, rfl, ?_⟩, fun _ => rfl, fun waiting => ?_⟩
    · simp [Session.keys, handles, Conversation.requests, Conversation.answered, keysOf]
    · rw [serving] at waiting
      cases waiting

private theorem Course.refused {deadline : Option Nat} {how : Session.Ending}
    (course : Course config i line.session shown received decoded said)
    (greeting : line.session.phase = .greeting deadline)
    (sent : m.sent = none ∨ m.sent = some Session.rejection ∧
      ∀ body, line.session.frame? = some body → s.service.admits body = false)
    (ended : m.session.phase = .ended how) : After config i s line.session t m shown received decoded said := by
  obtain ⟨rfl, rfl, hidden, _⟩ := course.greeting greeting
  have live : line.session.hasEnded = false := by simp [Session.hasEnded, greeting]
  have finished := Session.hasEnded_of_ended ended
  have still : m.session.hasEnded = false → False := by simp [finished]
  refine ⟨course.streams.over live ended t, fun again => ?_, fun alive => (still alive).elim, fun here => .inl ?_⟩
  · simp [ended] at again
  · rcases here with before | now
    · exact absurd before hidden
    · obtain ⟨rfl, body, first, admitted⟩ := Session.frame?_of_authenticated now
      have silent : m.sent = none := by
        rcases sent with none | ⟨_, wrong⟩
        · exact none
        · rw [wrong body first] at admitted
          cases admitted
      exact ⟨finished, by simp [first], by simp [Session.request?, greeting, silent]⟩

/-- That a session runs for the first time is neither heard nor shown. -/
private theorem Course.begun (course : Course config i line.session shown received decoded said)
    (fresh : line.session.phase = .greeting none) :
    Course config i (line.session.begin s.service s.now).session
      (shown ∨ .authenticated i ∈ line.session.turnEvents s.service s.now i .look (line.session.begin s.service s.now))
      received decoded (said ++ (Option.map (Said.told s) none).toList) := by
  obtain ⟨rfl, rfl, hidden, handles⟩ := course.greeting fresh
  rw [Session.turnEvents_begin fresh]
  have still : ¬(shown ∨ Event.authenticated i ∈ []) := by simp [hidden]
  exact ⟨course.streams.begin fresh _ _, fun _ => ⟨rfl, rfl, still, handles⟩, fun _ greeted => absurd rfl (greeted _),
    fun here => absurd here still⟩

/-- A request is answered at once, begins a wait, or finds no way to be answered. -/
private theorem Course.served {body : Bytes} {request : Request}
    (course : Course config i line.session shown received decoded said) (serving : line.session.phase = .serving)
    (found : line.session.frame? = some body) (read : Request.decode? body = some request)
    (carried : line.session.taken.Carried s.service request m) :
    After config i s line.session .input m shown received decoded said := by
  have live := Session.live_of_serving serving
  obtain ⟨here, c, rfl, fits⟩ := course.conversation live (by simp [serving])
  have done := fits.serving serving
  obtain ⟨_, open_, known⟩ := fits.live live
  have keys : line.session.keys = keysOf c.answered := by rw [known, Conversation.requests, done]; simp
  have asks : line.session.request? = some request := by simp [Session.request?, serving, found, read]
  unfold After
  simp only [if_true, found, asks, Option.toList_some, Option.map_some]
  cases carried with
  | answered response answer sent session issued registry =>
    have serving' : m.session.phase = .serving := by rw [session]; exact (line.session.phase_taken).trans serving
    rw [Session.keys_taken] at answer issued
    refine .of_fits (.inl here) ?_ (by simp [serving']) (c.exchange ⟨request, s, response, s⟩) ?_ ?_
    · exact course.streams.decode live found (by simp [serving']) fun _ => by rw [session]; exact ⟨rfl, rfl⟩
    · rw [Conversation.said_exchange done open_, sent]
      rfl
    · exact fits.exchange serving read rfl (.atOnce (by rw [← keys]; exact answer)) serving' issued
  | awaited h timeout key place asked bound sent session registry =>
    have waiting : m.session.phase = .waiting h place { timeout := timeout.orElse fun _ => s.service.config.waitTimeout } := by
      rw [session]
    have handles : m.session.handles = line.session.handles := by rw [session]; exact line.session.handles_taken
    have bound' : m.session.binding? h = some (key, place) := by simpa [Session.binding?, handles] using bound
    refine .of_fits (.inl here) ?_ (by simp [waiting]) (c.ask s request) ?_ ?_
    · exact course.streams.decode live found (by simp [waiting]) fun _ => by rw [session]; exact ⟨rfl, rfl⟩
    · rw [Conversation.said_ask done open_, sent]
      rfl
    · refine fits.ask serving read (fun _ => ⟨by rw [asked]; rfl, ?_⟩) (by simp [waiting]) fun again => ?_
      · rw [Session.keys, handles, Session.keys]
      · rw [waiting, Session.Phase.waiting.injEq] at again
        obtain ⟨rfl, rfl, rfl⟩ := again
        refine ⟨timeout, key, asked, Session.openWait?_of_waiting waiting bound', ?_, rfl⟩
        exact Session.keyOf?_of_binding (by simpa [Session.binding?] using bound)
  | failed how sent ended =>
    have finished := Session.hasEnded_of_ended ended
    refine .of_fits (.inl here) ?_ (by simp [ended]) (c.ask s request) ?_ ?_
    · exact course.streams.decode live found (by simp [ended]) (by simp [finished])
    · rw [Conversation.said_ask done open_, sent]
      rfl
    · exact fits.ask serving read (by simp [finished]) (by simp [ended]) (by simp [ended])

/-- The connection ends, with one more response or without. -/
private theorem Course.ending {session : Session} {how : Session.Ending} {c : Conversation} {sent : Option Response}
    (here : shown) (streams : session.Streams received decoded) (ended : session.phase = .ended how)
    (fits : c.Fits i session decoded) (open_ : c.farewell = none)
    (last : sent = none ∨ ∃ message, sent = some (.error .protocolViolation message)) :
    Course config i session shown received decoded
      (c.said (.welcome config.parties) ++ (sent.map (.told s)).toList) := by
  rcases last with rfl | ⟨message, rfl⟩
  · exact .of_fits here streams (by simp [ended]) c (by simp) fits
  · exact .of_fits here streams (by simp [ended]) _ (Conversation.said_goodbye open_ _ s _).symm
      (fits.goodbye ended message)

/-- A turn that decodes nothing takes no request. -/
private theorem After.of_quiet {session : Session} (quiet : t = .look ∨ session.frame? = none)
    (course : Course config i m.session (shown ∨ .authenticated i ∈ session.turnEvents s.service s.now i t m) received
      decoded (said ++ (m.sent.map (.told s)).toList)) :
    After config i s session t m shown received decoded said := by
  have frames : (if t = .input then session.frame?.toList else []) = [] := by
    rcases quiet with rfl | empty
    · rfl
    · simp [empty]
  have requests : (if t = .input then (session.request?.map (Said.asked s)).toList else []) = [] := by
    rcases quiet with rfl | empty
    · rfl
    · have nothing : session.request? = none := by
        unfold Session.request?
        rw [empty]
        cases session.phase <;> rfl
      simp [nothing]
  unfold After
  rw [frames, requests, List.append_nil, List.nil_append]
  exact course

/-- What a turn says and decodes fits what it does to the session. -/
private theorem Course.turn (course : Course config i line.session shown received decoded said)
    (service : s.service.config = config) (found : s.lines[i]? = some line)
    (bound : line.session.Bound s.service.registry) (moved : line.session.turn s.service s.now t = some m) :
    After config i s line.session t m shown received decoded said := by
  cases Session.turn_talk bound moved with
  | welcomed greeting first admitted sent session =>
    exact course.welcomed greeting first admitted (by rw [sent, service]) session
  | refused greeting sent ended => exact course.refused greeting sent ended
  | begun fresh => exact .of_quiet (.inl rfl) (course.begun fresh)
  | served serving frame read carried => exact course.served serving frame read carried
  | @malformed _ body how serving frame read sent ended =>
    have live := Session.live_of_serving serving
    obtain ⟨here, c, rfl, fits⟩ := course.conversation live (by simp [serving])
    have silent : line.session.request? = none := by simp [Session.request?, serving, frame, read]
    have streams := course.streams.over live ended .input
    have unreadable := fits.unreadable live read ended
    unfold After
    simp only [if_true, frame, silent, Option.toList_some, Option.map_none, Option.toList_none, List.nil_append] at streams ⊢
    exact Course.ending (c := { c with malformed := some body }) (.inl here) streams ended unreadable (fits.live live).2.1
      (sent.imp_right fun told => ⟨_, told⟩)
  | closing serving frame aside sent ended =>
    have live := Session.live_of_serving serving
    obtain ⟨here, c, rfl, fits⟩ := course.conversation live (by simp [serving])
    have streams := course.streams.over live ended .look
    exact .of_quiet (.inr frame) (.ending (.inl here) (by simpa using streams) ended (fits.ended ended)
      (fits.live live).2.1 (.inl sent))
  | @aside _ h place w body waiting item sent session =>
    obtain ⟨here, c, rfl, fits⟩ := course.conversation (Session.live_of_waiting waiting) (by simp [waiting])
    have waiting' : m.session.phase = .waiting h place w := by rw [session]; exact (line.session.phase_taken).trans waiting
    refine .of_quiet (.inr (by simp [Session.frame?, waiting])) (.of_fits (.inl here) ?_ (by simp [waiting']) c ?_ ?_)
    · rw [session]
      exact course.streams.aside_frame waiting item
    · simp [sent]
    · exact fits.stillWaiting waiting waiting' (by rw [session]; exact line.session.handles_taken) rfl
  | left waiting sent ended =>
    have live := Session.live_of_waiting waiting
    obtain ⟨here, c, rfl, fits⟩ := course.conversation live (by simp [waiting])
    have streams := course.streams.over live ended .look
    exact .of_quiet (.inr (by simp [Session.frame?, waiting])) (.ending (.inl here) (by simpa using streams) ended
      (fits.ended ended) (fits.live live).2.1 sent)
  | @pending _ h place w b w' waiting there polled sent session =>
    have live := Session.live_of_waiting waiting
    obtain ⟨here, c, rfl, fits⟩ := course.conversation live (by simp [waiting])
    have waiting' : m.session.phase = .waiting h place w' := by rw [session]
    refine .of_quiet (.inl rfl) (.of_fits (.inl here) ?_ (by simp [waiting']) c ?_ ?_)
    · rw [session]
      exact course.streams.phase live (by simp)
    · simp [sent]
    · exact fits.stillWaiting waiting waiting' (by rw [session]) (Barrier.timeout_of_pending polled)
  | @returned _ h place w b result waiting there polled sent session =>
    have live := Session.live_of_waiting waiting
    obtain ⟨here, c, rfl, fits⟩ := course.conversation live (by simp [waiting])
    have serving' : m.session.phase = .serving := by rw [session]
    obtain ⟨s₀, timeout, pending, fits'⟩ :=
      fits.answer found rfl bound waiting there polled serving' (by rw [session])
    refine .of_quiet (.inl rfl) (.of_fits (.inl here) ?_ (by simp [serving']) _ ?_ fits')
    · rw [session]
      exact course.streams.phase live (by simp)
    · rw [Conversation.said_answer pending (fits.live live).2.1, sent]
      rfl
  | unheard waiting there polled sent ended =>
    have live := Session.live_of_waiting waiting
    obtain ⟨here, c, rfl, fits⟩ := course.conversation live (by simp [waiting])
    have streams := course.streams.over live ended .look
    exact .of_quiet (.inl rfl) (.ending (.inl here) (by simpa using streams) ended (fits.ended ended)
      (fits.live live).2.1 (.inl sent))

/-- The peer writes or closes. -/
private theorem Course.heard {session session' : Session} {received' : Bytes}
    (course : Course config i session shown received decoded said) (streams : session'.Streams received' decoded)
    (phase : session'.phase = session.phase) (handles : session'.handles = session.handles) :
    Course config i session' shown received' decoded said where
  streams := streams
  greeting := fun greeting => by
    rw [handles]
    exact course.greeting (phase.symm.trans greeting)
  live := by
    have live : session'.hasEnded = session.hasEnded := by simp [Session.hasEnded, phase]
    rw [live, phase]
    exact course.live
  conversed := fun here => by
    rcases course.conversed here with ⟨finished, rest⟩ | ⟨c, spoken, fits⟩
    · exact .inl ⟨by simpa [Session.hasEnded, phase] using finished, rest⟩
    · exact .inr ⟨c, spoken, fits.congr phase handles⟩

/-- The connection is cut off. -/
private theorem Course.cut {session session' : Session} (course : Course config i session shown received decoded said)
    (live : session.hasEnded = false) {how : Session.Ending} (ended : session'.phase = .ended how) :
    Course config i session' shown received decoded said where
  streams := by simpa using course.streams.over live ended .look
  greeting := fun greeting => by simp [ended] at greeting
  live := fun alive => by simp [Session.hasEnded_of_ended ended] at alive
  conversed := fun here => by
    rcases course.conversed here with ⟨finished, _⟩ | ⟨c, spoken, fits⟩
    · rw [live] at finished
      cases finished
    · exact .inr ⟨c, spoken, fits.ended ended⟩

private theorem Course.new (config : ServerConfig) (i : Nat) {shown : Prop} (hidden : ¬shown) :
    Course config i .new shown [] [] [] where
  streams := ⟨by simp, ⟨[], rfl, fun _ => rfl⟩, fun _ => ⟨Frame.Reader.fits_new, by simp [Session.new]⟩, fun _ => rfl⟩
  greeting := fun _ => ⟨rfl, rfl, hidden, rfl⟩
  live := fun _ greeted => absurd rfl (greeted _)
  conversed := fun here => absurd here hidden

end

/-- What was received and said on a connection, and shown of it, fits its session, if it is there. -/
def OnCourse (config : ServerConfig) (i : Nat) (s : Server) (h : List Event) (received : Bytes) (said : List Said) : Prop :=
  match s.lines[i]? with
  | some line => Course config i line.session (.authenticated i ∈ h) received (h.filterMap (Event.decodedOn? i)) said
  | none => received = [] ∧ h.filterMap (Event.decodedOn? i) = [] ∧ said = [] ∧ .authenticated i ∉ h

section
variable {config : ServerConfig} {s : Server} {i : Nat} {h es : List Event} {received : Bytes} {said : List Said}

theorem decoded_of_others (others : ∀ e ∈ es, e.connection ≠ i) : es.filterMap (Event.decodedOn? i) = [] := by
  refine List.filterMap_eq_nil_iff.mpr fun e member => ?_
  have other := others e member
  cases e with
  | decoded j body => exact if_neg other
  | _ => rfl

private theorem said_of_others (others : ∀ e ∈ es, e.connection ≠ i) : es.filterMap (Said.of? i s) = [] := by
  refine List.filterMap_eq_nil_iff.mpr fun e member => ?_
  have other := others e member
  cases e with
  | dispatched j request => exact if_neg other
  | sent j response about => exact if_neg other
  | _ => rfl

private theorem authenticated_of_others (others : ∀ e ∈ es, e.connection ≠ i) :
    .authenticated i ∈ h ++ es ↔ .authenticated i ∈ h := by
  rw [List.mem_append]
  exact ⟨fun member => member.resolve_right fun now => others _ now rfl, .inl⟩

/-- What a step comes to for what is known of a connection. -/
private theorem OnCourse.step (course : OnCourse config i s h received said) (service : s.service.config = config)
    (linked : s.Linked) (op : Operation) :
    OnCourse config i (s.perform op) (h ++ s.events op)
      (received ++ if i < s.lines.size then op.bytesFor i else []) (said ++ (s.events op).filterMap (Said.of? i s)) := by
  unfold OnCourse at course
  cases found : s.lines[i]? with
  | none =>
    have others := events_absent found op
    have outside : ¬ i < s.lines.size := Nat.not_lt.mpr (Array.getElem?_eq_none_iff.mp found)
    rw [found] at course
    obtain ⟨rfl, decoded, rfl, hidden⟩ := course
    rw [← authenticated_of_others others] at hidden
    unfold OnCourse
    rw [if_neg outside, List.filterMap_append, decoded, decoded_of_others others, said_of_others others]
    cases there : (s.perform op).lines[i]? with
    | none => exact ⟨rfl, rfl, rfl, hidden⟩
    | some line' =>
      obtain rfl := line_new found op there
      exact .new config i hidden
  | some line =>
    have inside : i < s.lines.size := (Array.getElem?_eq_some_iff.mp found).1
    rw [found] at course
    obtain ⟨line', there, step⟩ := line_step found op
    unfold OnCourse
    simp only [there, if_pos inside, List.filterMap_append]
    cases step with
    | same others other =>
      have nothing : op.bytesFor i = [] := by
        cases op with
        | receive j bytes => exact if_neg fun same => other bytes (by rw [same])
        | _ => rfl
      rw [nothing, decoded_of_others others, said_of_others others, authenticated_of_others others]
      simpa using course
    | received bytes =>
      have streams := course.streams.received bytes
      simpa [events, Operation.bytesFor] using course.heard streams rfl rfl
    | closed gone which =>
      have silent : s.events op = [] ∧ op.bytesFor i = [] := by rcases which with rfl | rfl <;> exact ⟨rfl, rfl⟩
      simpa [silent] using course.heard (course.streams.closed gone) rfl rfl
    | @turned t m moved =>
      have shows : s.events (.turn i t) = line.session.turnEvents s.service s.now i t m := by
        simp [events, found, moved]
      have next := course.turn service found (linked found) moved
      rw [shows, Session.said_turnEvents, Session.decoded_turnEvents, List.mem_append]
      simpa [After, Operation.bytesFor] using next
    | cut live =>
      have shows := s.events_cut i
      have decoded : (s.events (.cut i)).filterMap (Event.decodedOn? i) = [] := by
        refine List.filterMap_eq_nil_iff.mpr fun e member => ?_
        obtain ⟨key, b, rfl⟩ := shows e member
        rfl
      have silent : (s.events (.cut i)).filterMap (Said.of? i s) = [] := by
        refine List.filterMap_eq_nil_iff.mpr fun e member => ?_
        obtain ⟨key, b, rfl⟩ := shows e member
        rfl
      have hidden : .authenticated i ∈ h ++ s.events (.cut i) ↔ .authenticated i ∈ h := by
        rw [List.mem_append]
        refine ⟨fun member => member.resolve_right fun now => ?_, .inl⟩
        obtain ⟨_, _, impossible⟩ := shows _ now
        cases impossible
      rw [decoded, silent, hidden]
      simpa [Operation.bytesFor] using course.cut live rfl

theorem OnCourse.run (course : OnCourse config i s h received said) (service : s.service.config = config)
    (linked : s.Linked) (ops : List Operation) :
    OnCourse config i (s.run ops) (h ++ s.history ops) (received ++ s.received i ops) (said ++ s.dialogue i ops) := by
  induction ops generalizing s h received said with
  | nil => simpa [Server.received, dialogue] using course
  | cons op ops ih =>
    have step := perform_step s op
    have next := ih (course.step service linked op) (by rw [step.service]; exact service) (step.turned linked).linked
    simpa [Server.received, dialogue, List.append_assoc] using next

end

/-- What was written on a connection are the frames of the responses that were told. -/
def Said.told? : Said → Option Response
  | .told _ response => some response
  | .asked _ _ => none

theorem told_dialogue (i : Nat) (s : Server) (ops : List Operation) :
    (s.dialogue i ops).filterMap Said.told? = (s.history ops).filterMap (Event.responseTo? i) := by
  have each : ∀ (s : Server) e, (Said.of? i s e).bind Said.told? = Event.responseTo? i e := by
    intro s e
    cases e with
    | dispatched j request => by_cases same : j = i <;> simp [Said.of?, Said.told?, Event.responseTo?, same]
    | sent j response about => by_cases same : j = i <;> simp [Said.of?, Said.told?, Event.responseTo?, same]
    | _ => rfl
  induction ops generalizing s with
  | nil => rfl
  | cons op ops ih =>
    rw [dialogue, history_cons, List.filterMap_append, List.filterMap_append, ih, List.filterMap_filterMap]
    congr 1
    exact List.filterMap_congr fun e _ => each s e

theorem told_said (c : Conversation) (welcome : Response) :
    (c.said welcome).filterMap Said.told? = welcome :: c.responses := by
  have exchanged : (c.exchanges.flatMap Exchange.said).filterMap Said.told? = c.exchanges.map (·.response) := by
    induction c.exchanges with
    | nil => rfl
    | cons e exchanges ih => simp [Exchange.said, List.filterMap_cons, Said.told?, ih]
  cases pending : c.pending <;> cases farewell : c.farewell <;>
    simp [Conversation.said, Conversation.responses, exchanged, pending, farewell, List.filterMap_cons, Said.told?]

/-- How what was decoded and said on a connection follows the frames that its peer sends. -/
structure InOrder (config : ServerConfig) (i : Nat) (line : Line) (h : List Event) (said : List Said)
    (frames : List Bytes) (later : Bytes) (left : List Bytes) : Prop where
  /-- The frames are decoded in the order in which they are sent, none twice and none left out. -/
  decoded : frames = h.filterMap (Event.decodedOn? i) ++ left
  /-- As long as the connection lives, what is left are the frames that were put aside and those that are unread. -/
  held : line.session.hasEnded = false → ∃ unread, left = line.session.backlog ++ unread ∧
    line.session.inlet.unread ++ later = unread.flatMap Frame.frame
  /-- After the welcome requests and responses alternate, and each response answers its request; a connection that
      could not even be welcomed has ended. -/
  conversation : (line.session.hasEnded = true ∧ (h.filterMap (Event.decodedOn? i)).length = 1 ∧ said = [] ∧
      line.outgoing = []) ∨
    ∃ c : Conversation, said = c.said (.welcome config.parties) ∧
      c.Fits i line.session (h.filterMap (Event.decodedOn? i)) ∧
      line.outgoing = (.welcome config.parties :: c.responses).flatMap frameOf

/-- The requests of a connection are carried out and answered in the order in which they were sent, whatever chunks
    they come in, whatever they are sent behind, and whatever happens on other connections. -/
theorem requests_answered_in_order (config : ServerConfig) (secret : Secret) (address : Address)
    (complaint : Bytes → String) (ops : List Operation)
    (i : Nat) (frames : List Bytes) (later : Bytes) (small : ∀ body ∈ frames, body.length ≤ Frame.maxBody)
    (sent : (start config secret address complaint).received i ops ++ later = frames.flatMap Frame.frame)
    (authenticated : .authenticated i ∈ (start config secret address complaint).history ops) :
    ∃ line left, ((start config secret address complaint).run ops).lines[i]? = some line ∧
      InOrder config i line ((start config secret address complaint).history ops)
        ((start config secret address complaint).dialogue i ops)
        frames later left := by
  have fresh : OnCourse config i (start config secret address complaint) [] [] [] := by
    simp [OnCourse, start]
  have course := fresh.run rfl (fun found => by simp [start] at found) ops
  have chronicle := start_chronicle config secret address complaint ops
  simp only [List.nil_append] at course
  unfold OnCourse at course
  cases found : ((start config secret address complaint).run ops).lines[i]? with
  | none =>
    rw [found] at course
    exact absurd authenticated course.2.2.2
  | some line =>
    rw [found] at course
    obtain ⟨rest, bytes, held⟩ := course.streams.bytes
    rw [bytes, List.append_assoc] at sent
    obtain ⟨left, split, rest_eq⟩ := Frame.frames_of_prefix course.streams.small small sent
    refine ⟨line, left, rfl, split, fun live => ?_, ?_⟩
    · rw [held live, Session.undecoded, List.append_assoc] at rest_eq
      obtain ⟨_, aside⟩ := course.streams.aside live
      exact Frame.frames_of_prefix aside (fun body member => small body (by simp [split, member])) rest_eq
    · have written := chronicle.written found
      rw [← told_dialogue] at written
      rcases course.conversed authenticated with ⟨finished, first, silent⟩ | ⟨c, spoken, fits⟩
      · exact .inl ⟨finished, first, silent, by simpa [silent] using written⟩
      · exact .inr ⟨c, spoken, fits, by rw [written, spoken, told_said]⟩

/-- What a peer sends that asks for the status behind its wait. -/
def pipelined (secret : Secret) : List Bytes :=
  [Request.hello secret.toBase64, .getBarrier ⟨"a", "b"⟩, .wait 1 none, .status 1].map Request.encode

/-- The frames come in two chunks, the wait is released by another connection, and the last request was put aside. -/
def pipelining (secret : Secret) : List Operation :=
  let bytes := (pipelined secret).flatMap Frame.frame
  let others := ((pipelined secret).take 3).flatMap Frame.frame
  [.accept, .accept, .receive 0 (bytes.take 70), .turn 0 .input, .receive 0 (bytes.drop 70), .turn 0 .input,
    .turn 0 .input, .turn 0 .look, .turn 0 .input, .receive 1 others, .turn 1 .input, .turn 1 .input, .turn 1 .input,
    .turn 1 .look, .turn 0 .look, .turn 0 .input]

theorem requests_answered_in_order_pipelined :
    let secret : Secret := ⟨List.replicate 32 7, rfl⟩
    let s := start { parties := 2 } secret (.v4 127 0 0 1 50000) Request.complaint
    (∀ body ∈ pipelined secret, body.length ≤ Frame.maxBody) ∧
      s.received 0 (pipelining secret) ++ [] = (pipelined secret).flatMap Frame.frame ∧
      .authenticated 0 ∈ s.history (pipelining secret) ∧
      ∃ line, (s.run (pipelining secret)).lines[0]? = some line ∧ InOrder { parties := 2 } 0 line
        (s.history (pipelining secret)) (s.dialogue 0 (pipelining secret)) (pipelined secret) [] [] := by
  intro secret s
  have small : ∀ body ∈ pipelined secret, body.length ≤ Frame.maxBody := by decide +kernel
  have sent : s.received 0 (pipelining secret) ++ [] = (pipelined secret).flatMap Frame.frame := by decide +kernel
  have authenticated : .authenticated 0 ∈ s.history (pipelining secret) := by decide +kernel
  obtain ⟨line, left, found, ordered⟩ :=
    requests_answered_in_order { parties := 2 } secret (.v4 127 0 0 1 50000) Request.complaint (pipelining secret) 0
      (pipelined secret) []
      small sent authenticated
  have all : (s.history (pipelining secret)).filterMap (Event.decodedOn? 0) = pipelined secret := by decide +kernel
  have none : left = [] := by
    have split := ordered.decoded
    rw [all] at split
    exact List.append_right_eq_self.mp split.symm
  subst none
  exact ⟨small, sent, authenticated, line, found, ordered⟩

end Server
end Lockstep
