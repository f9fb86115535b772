import Lockstep.Proofs.Server.Counted
import Lockstep.Proofs.Server.Handles
import Lockstep.Proofs.Session.Backlog
import Mathlib.Data.List.Induction

/-!
# How far ahead a peer may send

A peer may send requests before the earlier ones are answered. Behind an open
wait 16 of them are put aside, and whoever sends no more than that is never
closed for it. If one more comes while the wait is blocked, the connection ends:
the peer is told one error, what was put aside is forgotten, and the wait is given
up as the policy says (`pipelining_limited`).
-/
namespace Lockstep

namespace Barrier

/-- What the policy makes of a barrier at which a wait is given up. -/
structure Abandoned (policy : AbandonPolicy) (b : Barrier) (w : Wait) (b' : Barrier) : Prop where
  /-- Its generation is broken, or its party is taken out, as long as the generation is open. -/
  current : ∀ a, w.arrival = some a → a.generation = b.generation → b.broken = false → a.ticket ∈ b.waiting ∧
    match policy with
    | .breakGeneration => b' = { b with broken := true, waiting := [], outcomes := b.outcomes.push .broken }
    | .withdraw => b' = { b with waiting := b.waiting.filter (· ≠ a.ticket) }
  /-- Otherwise nothing is left to be done. -/
  past : (∀ a, w.arrival = some a → a.generation ≠ b.generation ∨ b.broken = true) → b' = b

private theorem abandoned_drop {Name : Type} [DecidableEq Name] {b : Barrier} {blocked : Blocked Name}
    (sound : Sound b blocked) {name : Name} {w : Wait} (known : blocked name = w.arrival) :
    Abandoned b.options.policy b w (b.drop w).1 where
  current := by
    intro a arrived current unbroken
    refine ⟨sound.counted unbroken (known.trans arrived) current, ?_⟩
    have here : ¬(b.generation ≠ a.generation ∨ b.broken = true) := by simp [current, unbroken]
    cases policy : b.options.policy with
    | breakGeneration => simp [drop, arrived, leave_break here policy, abort, unbroken]
    | withdraw => simp [drop, arrived, leave_withdraw here policy, withdrawn]
  past := by
    intro past
    cases arrived : w.arrival with
    | none => simp [drop, arrived]
    | some a =>
      have other := (past a arrived).imp_left Ne.symm
      simp [drop, arrived, leave_past other]

end Barrier

namespace Server

variable {s s' : Server} {i : Nat} {line line' : Line} {h : Handle} {key : PartitionKey} {place : Registry.Place}
  {w : Barrier.Wait} {config : ServerConfig} {secret : Secret} {address : Address} {complaint : Bytes → String}
  {ops : List Operation}

/-- Every session is sane. -/
def Sane (s : Server) : Prop :=
  ∀ {i : Nat} {line : Line}, s.lines[i]? = some line → line.session.Sane

private theorem Sane.step (sane : s.Sane) (linked : s.Linked) (op : Operation) : (s.perform op).Sane := by
  intro i line' there
  cases found : s.lines[i]? with
  | none =>
    obtain rfl := line_new found op there
    exact .new
  | some line =>
    obtain ⟨line'', there', step⟩ := line_step found op
    rw [there, Option.some.injEq] at there'
    subst there'
    cases step with
    | same => exact sane found
    | received bytes => exact (sane found).push bytes
    | closed gone => exact (sane found).close gone
    | turned moved => exact (sane found).turn (linked found) moved
    | cut => exact .ended rfl rfl

theorem Sane.run (sane : s.Sane) (linked : s.Linked) (ops : List Operation) : (s.run ops).Sane := by
  induction ops generalizing s with
  | nil => exact sane
  | cons op ops ih => exact ih (sane.step linked op) ((perform_step s op).turned linked).linked

private theorem start_sane (config : ServerConfig) (secret : Secret) (address : Address) (complaint : Bytes → String)
    (ops : List Operation) :
    ((start config secret address complaint).run ops).Sane :=
  Sane.run (fun found => by simp [start] at found) (fun found => by simp [start] at found) ops

/-- Of the requests behind the first frame of a peer at most so many have no response yet; the first response, the
    welcome, is to that frame. -/
def OpenAtMost (limit : Nat) (i : Nat) (s : Server) (ops : List Operation) : Prop :=
  ∀ count, Frame.Carries (s.received i ops) count → count - 1 ≤ ((responsesTo i (s.history ops)).length - 1) + limit

theorem course_of_run (found : ((start config secret address complaint).run ops).lines[i]? = some line) :
    Course config i line.session (.authenticated i ∈ (start config secret address complaint).history ops)
      ((start config secret address complaint).received i ops)
      (((start config secret address complaint).history ops).filterMap (Event.decodedOn? i))
      ((start config secret address complaint).dialogue i ops) := by
  have fresh : OnCourse config i (start config secret address complaint) [] [] [] := by simp [OnCourse, start]
  have course := fresh.run rfl (fun found => by simp [start] at found) ops
  simpa only [List.nil_append, OnCourse, found] using course

/-- A frame for which there is no room is one request too many. -/
private theorem not_overrun (few : OpenAtMost (Session.maxBacklog + 1) i (start config secret address complaint) ops)
    (found : ((start config secret address complaint).run ops).lines[i]? = some line) : ¬ line.session.Overrun := by
  rintro ⟨h, place, w, body, waiting, item, full⟩
  have course := course_of_run found
  have live := Session.live_of_waiting waiting
  obtain ⟨_, c, spoken, fits⟩ := course.conversation live (by simp [waiting])
  obtain ⟨rest, bytes, held⟩ := course.streams.bytes
  obtain ⟨reader, aside⟩ := course.streams.aside live
  obtain ⟨first, small, _⟩ := Frame.Inlet.next_frame reader (Prod.ext item rfl)
  generalize ((start config secret address complaint).history ops).filterMap (Event.decodedOn? i) = decoded at *
  -- All that was decoded, put aside and comes next was received.
  have carries : Frame.Carries ((start config secret address complaint).received i ops)
      (decoded.length + (line.session.backlog.length + 1)) := by
    refine ⟨decoded ++ (line.session.backlog ++ [body]), line.session.inlet.next.2.unread, ?_, ?_, by simp⟩
    · rw [bytes, held live, Session.undecoded, first]
      simp
    · intro b member
      simp only [List.mem_append, List.mem_singleton] at member
      rcases member with taken | held | rfl
      · exact course.streams.small b taken
      · exact aside b held
      · exact small
  -- The wait is the last request that was taken, and all others have their responses.
  have taken : decoded.length = c.exchanges.length + 2 := by
    obtain ⟨hello, bodies, rfl, requests⟩ := fits.taken
    obtain ⟨s, timeout, key, pending, _⟩ := fits.waiting waiting
    have length := congrArg List.length requests
    simp only [List.length_map, Conversation.requests, Conversation.answered, pending, Option.toList_some,
      List.map_cons, List.map_nil, List.length_append, List.length_singleton] at length
    simp [(fits.live live).1, length]
  have told : (responsesTo i ((start config secret address complaint).history ops)).length =
      c.exchanges.length + 1 := by
    rw [responsesTo, ← told_dialogue, spoken, told_said, Conversation.responses, (fits.live live).2.1]
    simp
  have enough := few _ carries
  omega

/-- No connection is closed for a frame too many whose peer never has a request too many. -/
theorem patient_of_run (few : ∀ before, before <+: ops →
      OpenAtMost (Session.maxBacklog + 1) i (start config secret address complaint) before)
    (found : ((start config secret address complaint).run ops).lines[i]? = some line) (h : Handle) :
    line.session.phase ≠ .ended (.overrun h) := by
  induction ops using List.reverseRecOn generalizing line with
  | nil => simp [start] at found
  | append_singleton ops op ih =>
    rw [run_append, run_cons, run_nil] at found
    cases before : ((start config secret address complaint).run ops).lines[i]? with
    | none =>
      obtain rfl := line_new before op found
      simp [Session.new]
    | some line' =>
      have calm := ih (fun first part => few first (part.trans (List.prefix_append ..))) before
      obtain ⟨line'', there, step⟩ := line_step before op
      rw [found, Option.some.injEq] at there
      subst there
      cases step with
      | same => exact calm
      | received => exact calm
      | closed => exact calm
      | cut => simp
      | turned moved =>
        cases Session.turn_fills moved with
        | plain _ _ other => exact other h
        | aside waiting _ _ session =>
          rw [session]
          exact calm
        | overrun ends => exact absurd ends (not_overrun (few ops (List.prefix_append ..)) before)

/-- While this happens no poll finds the wait of the connection over, and the connection is not cut off. -/
structure StaysBlocked (s : Server) (i : Nat) (key : PartitionKey) (more : List Operation) : Prop where
  unreturned : ∀ g result, .barrier key (.returned i g result) ∉ s.history more
  uncut : ∀ before after, more = before ++ .cut i :: after → (s.run before).running = true

private theorem StaysBlocked.tail {op : Operation} {more : List Operation}
    (blocked : s.StaysBlocked i key (op :: more)) : (s.perform op).StaysBlocked i key more where
  unreturned := fun g result member => blocked.unreturned g result (List.mem_append_right _ member)
  uncut := fun before after same => blocked.uncut (op :: before) after (by rw [same]; rfl)

/-- Of the connection nothing is shown but what it does at barriers. -/
def Hushed (i : Nat) (es : List Event) : Prop :=
  ∀ e ∈ es, e.connection = i → ∃ key b, e = .barrier key b

private theorem Hushed.append {es es' : List Event} (hushed : Hushed i es) (hushed' : Hushed i es') :
    Hushed i (es ++ es') :=
  fun e member => (List.mem_append.mp member).elim (hushed e) (hushed' e)

private theorem Hushed.of_others {es : List Event} (others : ∀ e ∈ es, e.connection ≠ i) : Hushed i es :=
  fun e member same => absurd same (others e member)

/-- Whatever is told of what other connections do not show, and of no barrier, is not told of what was hushed. -/
private theorem Hushed.filterMap {es : List Event} (hushed : Hushed i es) {α : Type} {f : Event → Option α}
    (others : ∀ {es : List Event}, (∀ e ∈ es, e.connection ≠ i) → es.filterMap f = [])
    (barrier : ∀ key b, f (.barrier key b) = none) : es.filterMap f = [] := by
  refine List.filterMap_eq_nil_iff.mpr fun e member => ?_
  by_cases here : e.connection = i
  · obtain ⟨key, b, rfl⟩ := hushed e member here
    exact barrier key b
  · exact List.filterMap_eq_nil_iff.mp (@others [e] (by simpa using here)) e (List.mem_singleton_self e)

/-- How a connection comes to be closed for the frames behind its wait: up to that turn it does nothing but to put
    frames aside and to look at its barrier. -/
structure Overruns (s : Server) (i : Nat) (h : Handle) (key : PartitionKey) (place : Registry.Place)
    (before : List Operation) (line : Line) (w : Barrier.Wait) (m : Session.Moved) : Prop where
  hushed : Hushed i (s.history before)
  found : (s.run before).lines[i]? = some line
  bound : line.session.binding? h = some (key, place)
  waiting : line.session.phase = .waiting h place w
  full : line.session.backlog.length = Session.maxBacklog
  moved : line.session.turn (s.run before).service (s.run before).now .input = some m
  away : m.TurnedAway (s.run before).service line.session h place w

private theorem Overruns.cons {op : Operation} {before : List Operation} {m : Session.Moved}
    (ends : (s.perform op).Overruns i h key place before line w m) (hushed : Hushed i (s.events op)) :
    s.Overruns i h key place (op :: before) line w m :=
  ⟨hushed.append ends.hushed, ends.found, ends.bound, ends.waiting, ends.full, ends.moved, ends.away⟩

/-- A wait that is crowded and stays blocked is open as before, or its connection was closed for it. -/
theorem crowded_run (linked : s.Linked) (found : s.lines[i]? = some line) (crowded : line.session.Crowded h place w)
    (bound : line.session.binding? h = some (key, place)) {more : List Operation}
    (blocked : s.StaysBlocked i key more) :
    (∃ line' w', (s.run more).lines[i]? = some line' ∧ line'.session.Crowded h place w') ∨
      ∃ before after line' w' m, more = before ++ .turn i .input :: after ∧
        s.Overruns i h key place before line' w' m := by
  induction more generalizing s line w with
  | nil => exact .inl ⟨line, w, found, crowded⟩
  | cons op more ih =>
    have linked' : (s.perform op).Linked := ((perform_step s op).turned linked).linked
    -- The wait is open after this operation, too.
    have goes : ∀ {line' w'}, (s.perform op).lines[i]? = some line' → line'.session.Crowded h place w' →
        line'.session.binding? h = some (key, place) → Hushed i (s.events op) →
        (∃ line' w', (s.run (op :: more)).lines[i]? = some line' ∧ line'.session.Crowded h place w') ∨
          ∃ before after line' w' m, op :: more = before ++ .turn i .input :: after ∧
            s.Overruns i h key place before line' w' m := by
      intro line' w' found' crowded' bound' hushed
      rcases ih linked' found' crowded' bound' blocked.tail with still | ⟨before, after, line'', w'', m, rfl, ends⟩
      · exact .inl still
      · exact .inr ⟨op :: before, after, line'', w'', m, rfl, ends.cons hushed⟩
    obtain ⟨line', there, step⟩ := line_step found op
    cases step with
    | same others => exact goes there crowded bound (.of_others others)
    | received bytes => exact goes there (crowded.push bytes) bound (by simp [Hushed, events])
    | closed gone which =>
      exact goes there (crowded.close gone) bound (by rcases which with rfl | rfl <;> simp [Hushed, events])
    | cut =>
      have running := blocked.uncut [] more rfl
      rw [run_nil] at running
      rw [perform_cut_of_none (.inl running), found, Option.some.injEq] at there
      have ended := congrArg (·.session.phase) there
      simp [crowded.waiting] at ended
    | @turned t m moved =>
      have shows : s.events (.turn i t) = line.session.turnEvents s.service s.now i t m := by
        simp [events, found, moved]
      cases crowded.turn (linked found) moved i with
      | goes crowded' handles hushed =>
        refine goes there crowded' ?_ fun e member _ => hushed e (by rwa [← shows])
        simpa [Session.binding?, handles] using bound
      | away input full away =>
        subst input
        exact .inr ⟨[], more, line, w, m, rfl, by simp [Hushed], found, bound, crowded.waiting, full, moved, away⟩
      | returned known given =>
        rw [bound, Option.some.injEq, Prod.mk.injEq] at known
        rw [← known.1, ← shows] at given
        exact absurd (List.mem_append_left _ given) (blocked.unreturned _ _)

/-- As long as the wait is open there is a turn of input to be taken. -/
private theorem turn_of_crowded (found : s.lines[i]? = some line) (crowded : line.session.Crowded h place w) :
    s.turn i .input ≠ none := by
  obtain ⟨_, m, _, _, moved⟩ := crowded.input s.service s.now
  simp [Server.turn, found, moved]

/-- Before that turn and after it nothing is shown of the connection that is a request or a response. -/
private theorem Overruns.filterMap {before : List Operation} {m : Session.Moved}
    (ends : s.Overruns i h key place before line w m) (after : List Operation) {α : Type} {f : Event → Option α}
    (others : ∀ {es : List Event}, (∀ e ∈ es, e.connection ≠ i) → es.filterMap f = [])
    (barrier : ∀ key b, f (.barrier key b) = none) :
    (s.history (before ++ .turn i .input :: after)).filterMap f =
      (line.session.turnEvents (s.run before).service (s.run before).now i .input m).filterMap f := by
  have acted := acted_of_turn ends.found ends.moved
  obtain ⟨later, _⟩ := run_closed (acted.here ends.found) ends.away.ended after
  have shows : (s.run before).events (.turn i .input) =
      line.session.turnEvents (s.run before).service (s.run before).now i .input m := by
    simp [events, ends.found, ends.moved]
  rw [history_append, history_cons, List.filterMap_append, List.filterMap_append, ends.hushed.filterMap others barrier,
    others later, shows, List.append_nil, List.nil_append]

/-- The connection is closed for the frames behind its wait, which was open on this handle until then. -/
structure TurnedAway (policy : AbandonPolicy) (s : Server) (i : Nat) (h : Handle) (key : PartitionKey)
    (place : Registry.Place) (more before after : List Operation) (line : Line) (w : Barrier.Wait) : Prop where
  turn : more = before ++ .turn i .input :: after
  found : (s.run before).lines[i]? = some line
  waiting : line.session.phase = .waiting h place w
  /-- As many frames were put aside as may be. -/
  full : line.session.backlog.length = Session.maxBacklog
  closed : (s.run more).hasClosed i = true
  /-- The peer is told this error and nothing else, then and later, if it still takes bytes. -/
  told : ∀ later, responsesTo i (s.history (more ++ later)) = if line.session.gone then [] else [Session.tooMany h]
  /-- Nothing that was put aside, and nothing that comes, is ever taken as a request. -/
  ignored : ∀ later, (s.history (more ++ later)).filterMap (Event.decodedOn? i) = [] ∧
    requestsOn i (s.history (more ++ later)) = []
  /-- Only the barrier of the key changes: the wait is given up there, as the policy says. -/
  given : (s.run before).service.registry.OnlyAt key (fun b => (b.drop w).1)
    (s.run (before ++ [.turn i .input])).service.registry
  abandoned : Barrier.Abandoned policy ((s.run before).service.registry.barrierFor key) w
    ((s.run (before ++ [.turn i .input])).service.registry.barrierFor key)
  left : eventsAt key ((s.run before).events (.turn i .input)) = Barrier.dropEvents i w

private theorem Overruns.turnedAway {before after : List Operation} {m : Session.Moved}
    (ends : s.Overruns i h key place before line w m) (linked : (s.run before).Linked)
    (sound : Barrier.Sound ((s.run before).service.registry.barrierFor key) ((s.run before).blockedOn key))
    (policy : ((s.run before).service.registry.barrierFor key).options.policy = config.policy) :
    TurnedAway config.policy s i h key place (before ++ .turn i .input :: after) before after line w := by
  have acted := acted_of_turn ends.found ends.moved
  have located := (linked ends.found).find? ends.bound
  have idle : line.session.frame? = none := by simp [Session.frame?, ends.waiting]
  have given : (s.run before).service.registry.OnlyAt key (fun b => (b.drop w).1)
      (s.run (before ++ [.turn i .input])).service.registry := by
    rw [run_append, run_cons, run_nil, acted.registry, ends.away.registry]
    exact .update located _
  refine ⟨rfl, ends.found, ends.waiting, ends.full, ?_, fun later => ?_, fun later => ⟨?_, ?_⟩, given, ?_, ?_⟩
  · obtain ⟨_, line', found, ended⟩ := run_closed (acted.here ends.found) ends.away.ended after
    rw [run_append, run_cons, hasClosed, found]
    exact ended
  · rw [List.append_assoc, List.cons_append, responsesTo, ends.filterMap _ responsesTo_of_others fun _ _ => rfl,
      Session.responseTo?_turnEvents, ends.away.sent]
    split <;> rfl
  · rw [List.append_assoc, List.cons_append, ends.filterMap _ decoded_of_others fun _ _ => rfl,
      Session.decoded_turnEvents, if_pos rfl, idle]
    rfl
  · rw [List.append_assoc, List.cons_append, requestsOn, ends.filterMap _ requestsOn_of_others fun _ _ => rfl]
    have nothing : line.session.request? = none := by simp [Session.request?, ends.waiting]
    exact (requestsOn_turnEvents s).trans (by rw [if_pos rfl, nothing]; rfl)
  · have known : (s.run before).blockedOn key i = w.arrival := by
      rw [blockedOn_of_line ends.found, Session.arrivalOn?_of_waiting ends.waiting ends.bound, if_pos rfl]
    rw [given.here, ← policy]
    exact Barrier.abandoned_drop sound known
  · have shows : (s.run before).events (.turn i .input) =
        line.session.turnEvents (s.run before).service (s.run before).now i .input m := by
      simp [events, ends.found, ends.moved]
    rw [shows, Session.eventsAt_input, if_pos ends.away.ended, Session.eventsAt_dropEvents ends.waiting ends.bound,
      if_pos rfl]

/-- How far ahead a peer may send, in the state that a run comes to. -/
structure Limited (config : ServerConfig) (secret : Secret) (address : Address) (complaint : Bytes → String)
    (ops : List Operation) : Prop where
  /-- No more than 16 frames are ever put aside on a connection. -/
  room : ∀ {i : Nat} {line : Line}, ((start config secret address complaint).run ops).lines[i]? = some line →
    line.session.backlog.length ≤ Session.maxBacklog
  /-- A peer that never has more than 17 requests open comes to no frame too many, and its connection is not closed for
      one. -/
  patient : ∀ {i : Nat}, (∀ before, before <+: ops →
      OpenAtMost (Session.maxBacklog + 1) i (start config secret address complaint) before) →
    ∀ {line : Line}, ((start config secret address complaint).run ops).lines[i]? = some line →
      ¬ line.session.Overrun ∧ ∀ h, line.session.phase ≠ .ended (.overrun h)
  /-- When more than 16 frames have come in behind an open wait, those counted that were put aside behind earlier ones,
      and the wait stays blocked until the connection has no turn of input left, it is closed for them. -/
  crowded : ∀ {i : Nat} {line : Line} {h : Handle} {key : PartitionKey} {place : Registry.Place} {w : Barrier.Wait}
    {count : Nat}, ((start config secret address complaint).run ops).lines[i]? = some line →
    line.session.phase = .waiting h place w → line.session.binding? h = some (key, place) →
    Frame.Carries line.session.inlet.unread count → Session.maxBacklog < line.session.backlog.length + count →
    ∀ {more : List Operation}, ((start config secret address complaint).run ops).StaysBlocked i key more →
      (((start config secret address complaint).run ops).run more).turn i .input = none →
      ∃ before after line' w',
        TurnedAway config.policy ((start config secret address complaint).run ops) i h key place more before after
          line' w'

/-- Behind an open wait a peer may have 16 requests on their way, whatever was put aside before: with no more it is
    never closed for that, and with more it is told one error, none of its requests is taken, and its wait is given
    up. -/
theorem pipelining_limited (config : ServerConfig) (secret : Secret) (address : Address) (complaint : Bytes → String)
    (ops : List Operation) :
    Limited config secret address complaint ops where
  room := fun found => (start_sane config secret address complaint ops found).room
  patient := fun few _ found => ⟨not_overrun (few ops (List.prefix_refl ops)) found, patient_of_run few found⟩
  crowded := by
    intro i line h key place w count found waiting bound carries many more blocked rest
    have linked : ((start config secret address complaint).run ops).Linked :=
      (start_turned config secret address complaint ops).linked
    have fits := ((course_of_run found).streams.aside (Session.live_of_waiting waiting)).1
    have crowded : line.session.Crowded h place w :=
      ⟨start_sane config secret address complaint ops found, waiting, fits, count, carries, many⟩
    rcases crowded_run linked found crowded bound blocked with
      ⟨line', w', found', crowded'⟩ | ⟨before, after, line', w', m, rfl, ends⟩
    · exact absurd rest (turn_of_crowded found' crowded')
    · have positive := positive_of_find? config secret address complaint ((linked found).find? bound)
      obtain ⟨sound, options, _⟩ := story_of_run config secret address complaint positive (ops ++ before) key
      have linked' : (((start config secret address complaint).run ops).run before).Linked :=
        (run_turned linked before).linked
      rw [run_append] at sound options
      exact ⟨before, after, line', w', ends.turnedAway linked' sound (by rw [options]; rfl)⟩

/-- A peer sends a wait, another one behind it and 15 requests more. When another peer has released the first wait, the
    second one is open with 15 frames put aside, and two more come. -/
def crowding (secret : Secret) : List Operation :=
  let bytes (requests : List Request) : Bytes := requests.flatMap fun r => Frame.frame r.encode
  let greeting : List Request := [.hello secret.toBase64, .getBarrier ⟨"a", "b"⟩, .wait 1 none]
  let turns (i count : Nat) : List Operation := List.replicate count (.turn i .input)
  [.accept, .accept, .receive 0 (bytes (greeting ++ .wait 1 none :: List.replicate 15 (.status 1)))] ++ turns 0 3 ++
    [.turn 0 .look] ++ turns 0 16 ++ [.receive 1 (bytes greeting)] ++ turns 1 3 ++
    [.turn 1 .look, .turn 0 .look, .turn 0 .input, .turn 0 .look, .receive 0 (bytes [.status 1, .status 1])]

/-- The first of the two finds room, and the second one ends the connection and breaks the barrier. -/
theorem pipelining_limited_crowding :
    let config : ServerConfig := { parties := 2 }
    let secret : Secret := ⟨List.replicate 32 7, rfl⟩
    let s := (start config secret (.v4 127 0 0 1 50000) Request.complaint).run (crowding secret)
    let more : List Operation := [.turn 0 .input, .turn 0 .input]
    (s.lines[0]?.map fun line => line.session.backlog.length) = some 15 ∧
      (∃ before after line w, TurnedAway .breakGeneration s 0 1 ⟨"a", "b"⟩ 0 more before after line w) ∧
      ((s.run more).service.registry.barrier? 0).map Barrier.status = some ⟨2, 0, true, 1⟩ := by
  intro config secret s more
  have shown : (s.lines[0]?.map fun line => (line.session.phase, line.session.binding? 1, line.session.backlog.length,
        line.session.inlet.unread)) = some (.waiting 1 0 ⟨none, some ⟨1, 0, none⟩⟩, some (⟨"a", "b"⟩, 0), 15,
          [Request.status 1, .status 1].flatMap fun r => Frame.frame r.encode) ∧
      s.history more = [.barrier ⟨"a", "b"⟩ (.left 0 1), .sent 0 (Session.tooMany 1) none] ∧
      ((s.run more).turn 0 .input).isNone = true ∧
      ((s.run more).service.registry.barrier? 0).map Barrier.status = some ⟨2, 0, true, 1⟩ := by decide +kernel
  obtain ⟨shown, silent, rest, status⟩ := shown
  obtain ⟨line, found, facts⟩ := Option.map_eq_some_iff.mp shown
  simp only [Prod.mk.injEq] at facts
  obtain ⟨waiting, bound, backlog, unread⟩ := facts
  have carries : Frame.Carries line.session.inlet.unread 2 :=
    ⟨[Request.status 1, .status 1].map Request.encode, [], by rw [unread]; simp, by decide +kernel, rfl⟩
  have blocked : s.StaysBlocked 0 ⟨"a", "b"⟩ more := by
    refine ⟨by simp [silent], fun before after same => ?_⟩
    have missing : Operation.cut 0 ∉ more := by decide
    exact absurd (by simp [same]) missing
  refine ⟨by rw [found, Option.map_some, backlog], ?_, status⟩
  have limited := pipelining_limited config secret (.v4 127 0 0 1 50000) Request.complaint (crowding secret)
  exact limited.crowded found waiting bound carries
    (by rw [backlog]; decide) blocked (Option.isNone_iff_eq_none.mp rest)

end Server
end Lockstep
