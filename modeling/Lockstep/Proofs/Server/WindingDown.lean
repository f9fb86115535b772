import Lockstep.Proofs.Client.Severed
import Lockstep.Proofs.Registry.Deserted
import Lockstep.Proofs.Server.Counted
import Lockstep.Proofs.Server.Gauge
import Lockstep.Proofs.Server.Lines

/-!
# Winding down

Once a shutdown was requested the open connections are cut off, and each takes
its wait along. That settles waits of other connections, which may or may not be
told so before it is their turn. In whatever order all this happens, nobody is
released, and what is left of the barriers in the end is the same.
-/
namespace Lockstep.Server
open Client

variable {s t : Server} {i : Nat} {line line' : Line}

/-! ### Waits at rest -/

/-- The wait is blocked at the barrier of this key, and nothing but that barrier can end it. -/
structure Stuck (s : Server) (place : Registry.Place) (w : Barrier.Wait) (key : PartitionKey) (b : Barrier)
    (a : Barrier.Arrival) : Prop where
  entry : s.service.registry.entries[place]? = some (key, b)
  arrived : w.arrival = some a
  current : a.generation = b.generation
  unbroken : b.broken = false
  counted : a.ticket ∈ b.waiting
  pending : (b.poll s.now w).2.1 = .pending w
  /-- If the barrier breaks, the wait learns of it. -/
  known : b.abort.1.outcome? a.generation = some .broken

/-- A server at rest, with what holds of servers in every run. -/
structure Resting (s : Server) : Prop where
  rest : s.AtRest
  linked : s.Linked
  sound : ∀ key, Barrier.Sound (s.service.registry.barrierFor key) (s.blockedOn key)
  distinct : s.service.registry.Distinct
  options : ∀ key, (s.service.registry.barrierFor key).options = s.service.registry.options
  gauge : s.meter.waiting = s.arrived

theorem resting_of_run {config : ServerConfig} (positive : 0 < config.parties) (secret : Secret) (address : Address)
    (complaint : Bytes → String)
    (ops : List Operation) (rest : ((start config secret address complaint).run ops).AtRest) :
    ((start config secret address complaint).run ops).Resting where
  rest := rest
  linked := (start_turned config secret address complaint ops).linked
  sound := fun key => (story_of_run config secret address complaint positive ops key).1
  distinct := (start_turned config secret address complaint ops).more.distinct
    (by simp [start, Service.new, Registry.Distinct])
  options := fun key => by
    rw [(start_turned config secret address complaint ops).more.options]
    exact (story_of_run config secret address complaint positive ops key).2.1
  gauge := gauge_counts_arrived config secret address complaint ops

/-- Whoever is blocked is a party of the current generation, and whatever is in it has somebody who is blocked. -/
private theorem Resting.blocked_iff (resting : s.Resting) (key : PartitionKey) (g : Nat) :
    (∃ i a, s.blockedOn key i = some a ∧ a.generation = g) ↔
      (s.service.registry.barrierFor key).waiting ≠ [] ∧ g = (s.service.registry.barrierFor key).generation := by
  have sound := resting.sound key
  constructor
  · rintro ⟨i, a, blocked, rfl⟩
    obtain ⟨line, place, w, found, opened, _⟩ := openWait?_of_blockedOn blocked
    obtain ⟨a', blocked', current, unbroken⟩ :=
      resting.rest.blocked resting.linked sound found (Session.awaits_of_openWait? opened)
    rw [blocked, Option.some.injEq] at blocked'
    subst blocked'
    exact ⟨List.ne_nil_of_mem (sound.counted unbroken blocked current), current⟩
  · rintro ⟨occupied, rfl⟩
    obtain ⟨ticket, member⟩ := List.exists_mem_of_ne_nil _ occupied
    obtain ⟨i, a, blocked, current, _⟩ := sound.owned ticket member
    exact ⟨i, a, blocked, current⟩

private theorem Resting.stuck (resting : s.Resting) (found : s.lines[i]? = some line) {h : Handle}
    {place : Registry.Place} {w : Barrier.Wait} (waiting : line.session.phase = .waiting h place w) :
    ∃ key b a, s.Stuck place w key b a := by
  obtain ⟨key, bound⟩ := (resting.linked found).waits waiting
  have located := (resting.linked found).find? bound
  have there := Registry.barrier?_of_find? located
  obtain ⟨b, entry⟩ := Registry.entry_of_find? located
  have same : s.service.registry.barrierFor key = b := by
    simpa [Registry.barrier?, entry] using there.symm
  have awaits : line.session.Awaits key := ⟨h, place, by simp [Session.awaited?, waiting], bound⟩
  have sound := resting.sound key
  obtain ⟨a, blocked, current, unbroken⟩ := resting.rest.blocked resting.linked sound found awaits
  have arrived : w.arrival = some a := by
    rwa [blockedOn_of_line found, Session.arrivalOn?_of_waiting waiting bound, if_pos rfl] at blocked
  have counted := sound.counted unbroken blocked current
  have known := Barrier.outcome?_abort sound unbroken
  rw [← current] at known
  rw [same] at there current unbroken counted known
  exact ⟨key, b, a, entry, arrived, current, unbroken, counted,
    Session.pending_of_rest (resting.rest.turn found .look) waiting there, known⟩

/-! ### What becomes of a connection -/

/-- Nothing, or one response which tells that a generation was broken. -/
def Failing (bytes : Bytes) : Prop :=
  bytes = [] ∨ ∃ message, (Response.error .barrierBroken message).encode.length ≤ Frame.maxBody ∧
    bytes = frameOf (.error .barrierBroken message)

/-- What has become of a connection. -/
inductive Wound (line : Line) : Line → Prop
  | same : Wound line line
  /-- Its wait was told that it failed. -/
  | told {h : Handle} {place : Registry.Place} {w : Barrier.Wait} {bytes : Bytes} :
      line.session.phase = .waiting h place w → Failing bytes →
      Wound line ⟨{ line.session with phase := .serving }, line.outgoing ++ bytes⟩
  | ended {session : Session} {bytes : Bytes} : session.hasEnded = true → Failing bytes →
      Wound line ⟨session, line.outgoing ++ bytes⟩

/-- A connection that is cut off is sent nothing more. -/
private theorem Wound.cut (wound : Wound line line') (session : Session) (closed : session.hasEnded = true) :
    Wound line { line' with session } := by
  cases wound with
  | same =>
    have silent : Wound line ⟨session, line.outgoing ++ []⟩ := .ended closed (.inl rfl)
    simpa using silent
  | told _ failing => exact .ended closed failing
  | ended _ failing => exact .ended closed failing

-- From here on no response is to be computed.
attribute [local irreducible] Session.reply

/-- A wait that is told of its broken generation. -/
private theorem Wound.tell {h : Handle} {place : Registry.Place} {w : Barrier.Wait}
    (waiting : line.session.phase = .waiting h place w) {g : Nat} {r : Registry} {meter : Meter} {m : Session.Moved}
    (replied : m = Session.reply { line.session with phase := .serving } r
      (Session.responseOf (.failed (.brokenDuring g))) meter) :
    Wound line ⟨m.session, line.outgoing ++ (m.sent.map frameOf).getD []⟩ := by
  rcases Session.reply_cases { line.session with phase := .serving } r
    (Session.responseOf (.failed (.brokenDuring g))) meter with ⟨written, done⟩ | ⟨_, sent, how, ended⟩
  · have fits : (Session.responseOf (.failed (.brokenDuring g))).encode.length ≤ Frame.maxBody := by
      by_contra long
      simp [Session.writeFault?, Nat.lt_of_not_le long] at written
    rw [replied, done]
    exact .told waiting (.inr ⟨_, fits, rfl⟩)
  · rw [← replied] at sent ended
    rw [sent]
    exact .ended (Session.hasEnded_of_ended ended) (.inl rfl)

/-! ### Winding down -/

/-- No request was put aside behind a wait on this connection, as none is where the peer waits for one answer before it
    sends another request. -/
def NothingAside (s : Server) (i : Nat) : Prop :=
  ∀ line h place w, s.lines[i]? = some line → line.session.phase = .waiting h place w → line.session.backlog = []

/-- What may happen from the request for a shutdown on: connections are cut off in any order, those that are not run on,
    and others ask in vain to be accepted. Of the requests that were put aside none is taken up any more. -/
def WindsDown (s : Server) : Operation → Prop
  | .accept | .stop | .cut _ | .turn _ .look => True
  | .turn i .input => s.NothingAside i
  | _ => False

/-- How a server stands that is winding down from the one state. -/
structure Winding (s t : Server) : Prop where
  stopped : t.running = false
  now : t.now = s.now
  size : t.lines.size = s.lines.size
  lines : ∀ {i : Nat} {line : Line}, s.lines[i]? = some line → ∃ line', t.lines[i]? = some line' ∧ Wound line line'
  registry : s.service.registry.Deserting t.service.registry
  breaks : t.meter.breaks + t.service.registry.intact = s.meter.breaks + s.service.registry.intact
  releases : t.meter.releases = s.meter.releases

/-- What a connection does to the barriers and counts there, when it gives up its wait at most. -/
structure Deserts (s t : Server) (r : Registry) (meter : Meter) : Prop where
  registry : s.service.registry.Deserting r
  breaks : meter.breaks + r.intact = t.service.registry.intact
  releases : meter.releases = 0

/-- One connection acts. -/
private theorem Winding.acts (winding : Winding s t) (found : s.lines[i]? = some line)
    (there : t.lines[i]? = some line') {line'' : Line} (wound : Wound line line'') {r : Registry} {meter : Meter}
    (deserts : Deserts s t r meter) {t' : Server} (acted : t.Acted i line'' r meter t') : Winding s t' where
  stopped := acted.running.trans winding.stopped
  now := acted.now.trans winding.now
  size := acted.size.trans winding.size
  lines := by
    intro j other here
    by_cases same : j = i
    · subst same
      rw [found, Option.some.injEq] at here
      rw [← here]
      exact ⟨line'', acted.here there, wound⟩
    · rw [acted.elsewhere there same]
      exact winding.lines here
  registry := by
    rw [acted.registry]
    exact deserts.registry
  breaks := by
    have before := winding.breaks
    have now := deserts.breaks
    rw [acted.meter, acted.registry, Meter.add_breaks]
    omega
  releases := by
    rw [acted.meter, Meter.add_releases, deserts.releases, winding.releases, Nat.add_zero]

private theorem Winding.idle (winding : Winding s t) : Deserts s t t.service.registry {} :=
  ⟨winding.registry, by simp, rfl⟩

/-- A connection that is cut off gives up its wait. -/
private theorem Winding.abandon (winding : Winding s t) (resting : s.Resting) (found : s.lines[i]? = some line)
    (wound : Wound line line') (going : line'.session.hasEnded = false) :
    Deserts s t (line'.session.abandon t.service.registry).1 (line'.session.abandon t.service.registry).2 := by
  have quiet : ∀ c : Session, (∀ h place w, c.phase ≠ .waiting h place w) →
      Deserts s t (c.abandon t.service.registry).1 (c.abandon t.service.registry).2 := by
    intro c idle
    rw [Session.abandon_of_idle _ idle]
    exact winding.idle
  cases wound with
  | told _ _ => exact quiet _ (by simp)
  | ended closed _ => simp [closed] at going
  | same =>
    cases phase : line.session.phase with
    | waiting h place w =>
      obtain ⟨key, b, a, stuck⟩ := resting.stuck found phase
      obtain ⟨b', entry, left⟩ := winding.registry.entry stuck.entry
      have there : t.service.registry.barrier? place = some b' := by simp [Registry.barrier?, entry]
      have counts := b'.counts_drop w
      have intact := Registry.intact_put entry (b'.drop w).1
      have done : t.service.registry.update place (·.drop w) =
          (t.service.registry.put place (b'.drop w).1, (b'.drop w).2) := by
        simp only [Registry.update, there]
      rw [Session.abandon_of_waiting _ phase, done]
      refine ⟨winding.registry.put stuck.entry ?_, ?_, counts.2⟩
      · exact left.drop stuck.arrived stuck.current stuck.unbroken stuck.counted
      · have breaks := counts.1
        simp only
        omega
    | _ => exact quiet _ (by simp [phase])

/-! ### Turns -/

section
variable {c : Session} {service service' : Service} {now now' : Nat}

/-- At rest no turn of input is left, whatever happens to the barriers. -/
private theorem input_of_rest (rest : c.turn service now .input = none) : c.turn service' now' .input = none := by
  simp only [Session.turn, Session.takeInput] at rest ⊢
  split at rest
  · cases rest
  · cases phase : c.phase <;> cases item : c.inlet.next.1 <;> simp_all [Session.takeItem]

/-- A wait that was told of its end at rest has no more to read, unless something was put aside behind it. -/
private theorem input_of_told (rest : c.turn service now .input = none) {h : Handle} {place : Registry.Place}
    {w : Barrier.Wait} (waiting : c.phase = .waiting h place w) (nothing : c.backlog = []) :
    ({ c with phase := .serving } : Session).turn service' now' .input = none := by
  simp only [Session.turn, Session.takeInput, waiting] at rest
  cases item : c.inlet.next.1 <;> simp [Session.takeItem, item] at rest
  simp [Session.turn, Session.takeInput, Session.takeItem, nothing, item]

/-- Whoever waits for the secret, or for a request, has nothing to look at. -/
private theorem look_of_rest (rest : c.turn service now .look = none)
    (idle : ∀ h place w, c.phase ≠ .waiting h place w) : c.turn service' now .look = none := by
  cases phase : c.phase with
  | greeting deadline =>
    cases deadline with
    | none => simp [Session.turn, Session.look, phase] at rest
    | some deadline => simpa [Session.turn, Session.look, phase] using rest
  | waiting h place w => exact absurd phase (idle h place w)
  | _ => simp [Session.turn, Session.look, phase]

/-- A wait that stays as it is when it is polled. -/
private theorem look_of_pending {h : Handle} {place : Registry.Place} {w : Barrier.Wait} {b : Barrier}
    (waiting : c.phase = .waiting h place w) (there : service.registry.barrier? place = some b)
    (pending : (b.poll now w).2.1 = .pending w) : c.turn service now .look = none := by
  rcases polled : b.poll now w with ⟨b', poll, meter⟩
  obtain rfl : poll = .pending w := by simpa [polled] using pending
  simp [Session.turn, Session.look, waiting, Session.pollWait, there, polled]

end

/-- A connection takes a turn. -/
private theorem Winding.turn (winding : Winding s t) (resting : s.Resting) {turn : Session.Turn}
    (winds : s.WindsDown (.turn i turn)) : Winding s (t.perform (.turn i turn)) := by
  cases found : s.lines[i]? with
  | none =>
    have size := winding.size
    have outside : t.lines[i]? = none := by
      rw [Array.getElem?_eq_none_iff] at found ⊢
      omega
    rw [perform_turn_of_none (by simp [outside])]
    exact winding
  | some line =>
    obtain ⟨line', there, wound⟩ := winding.lines found
    have still : line'.session.turn t.service t.now turn = none → Winding s (t.perform (.turn i turn)) := by
      intro nothing
      rw [perform_turn_of_none (by simpa [there] using nothing)]
      exact winding
    have rests := resting.rest.turn found turn
    cases wound with
    | ended closed _ => exact still (Session.turn_of_ended closed)
    | told waiting _ =>
      cases turn with
      | look => exact still (by simp [Session.turn, Session.look])
      | input => exact still (input_of_told rests waiting (winds line _ _ _ found waiting))
    | same =>
      cases turn with
      | input => exact still (input_of_rest rests)
      | look =>
        rw [winding.now] at still
        cases phase : line.session.phase with
        | waiting h place w =>
          obtain ⟨key, b, a, stuck⟩ := resting.stuck found phase
          obtain ⟨b', entry, left⟩ := winding.registry.entry stuck.entry
          have located : t.service.registry.barrier? place = some b' := by simp [Registry.barrier?, entry]
          rcases left.poll stuck.arrived stuck.pending stuck.known with pending | polled
          · exact still (look_of_pending phase located pending)
          · have moved := Session.look_over phase located polled
            obtain ⟨registry, _⟩ := Session.reply_eq (s := { line.session with phase := .serving }) t.service.registry
              (Session.responseOf (.failed (.brokenDuring a.generation))) { waiting := -1 } rfl
            obtain ⟨kinds, counts⟩ := Session.reply_meter (c := { line.session with phase := .serving }) (by simp)
              t.service.registry (Session.responseOf (.failed (.brokenDuring a.generation))) { waiting := -1 }
            generalize replied : Session.reply _ _ _ _ = m at moved registry counts
            have deserts : Deserts s t m.registry m.meter := by
              rw [registry, counts]
              exact ⟨winding.registry, by simp, rfl⟩
            rw [← winding.now] at moved
            exact winding.acts found there (.tell phase replied.symm) deserts (acted_of_turn there moved)
        | _ => exact still (look_of_rest rests (by simp [phase]))

private theorem Winding.perform (winding : Winding s t) (resting : s.Resting) {op : Operation}
    (winds : s.WindsDown op) : Winding s (t.perform op) := by
  cases op with
  | accept => simpa [Server.perform, Server.accept, winding.stopped] using winding
  | stop =>
    obtain ⟨_, now, size, lines, registry, breaks, releases⟩ := winding
    exact ⟨rfl, now, size, lines, registry, breaks, releases⟩
  | receive j bytes => exact winds.elim
  | halfClose j => exact winds.elim
  | close j => exact winds.elim
  | advance ms => exact winds.elim
  | cut j =>
    by_cases closed : ∀ line', t.lines[j]? = some line' → line'.session.hasEnded = true
    · rw [perform_cut_of_none (.inr closed)]
      exact winding
    · simp only [not_forall, Bool.not_eq_true] at closed
      obtain ⟨line', there, going⟩ := closed
      have inside : j < s.lines.size := winding.size ▸ (Array.getElem?_eq_some_iff.mp there).1
      have found := Array.getElem?_eq_getElem inside
      obtain ⟨_, there', wound⟩ := winding.lines found
      rw [there, Option.some.injEq] at there'
      subst there'
      have deserts := winding.abandon resting found wound going
      exact winding.acts found there (wound.cut _ rfl) deserts (acted_of_cut winding.stopped there going)
  | turn j turn => exact winding.turn resting winds

/-- What happens while a server winds down leaves it winding down. -/
theorem Winding.run (winding : Winding s t) (resting : s.Resting) {after : List Operation}
    (winds : ∀ op ∈ after, s.WindsDown op) : Winding s (t.run after) := by
  induction after generalizing t with
  | nil => exact winding
  | cons op after ih =>
    have first := winding.perform resting (winds op List.mem_cons_self)
    exact ih first fun op' member => winds op' (List.mem_cons_of_mem op member)

private theorem winding_stop (s : Server) : Winding s (s.perform .stop) :=
  ⟨rfl, rfl, rfl, fun found => ⟨_, found, .same⟩, .refl _, rfl, rfl⟩

/-! ### The end -/

/-- A connection that is cut off has ended. -/
private theorem ended_of_cut (stopped : t.running = false) (found : t.lines[i]? = some line) :
    ∃ line', (t.perform (.cut i)).lines[i]? = some line' ∧ line'.session.hasEnded = true := by
  cases ended : line.session.hasEnded with
  | true =>
    rw [perform_cut_of_none (.inr (by simpa [found] using ended))]
    exact ⟨line, found, ended⟩
  | false => exact ⟨_, (acted_of_cut stopped found ended).here found, rfl⟩

/-- A server that accepts nothing will accept nothing. -/
theorem stopped_run (stopped : t.running = false) (ops : List Operation) :
    (t.run ops).running = false ∧ (t.run ops).lines.size = t.lines.size := by
  induction ops generalizing t with
  | nil => exact ⟨stopped, rfl⟩
  | cons op ops ih =>
    have step : (t.perform op).running = false ∧ (t.perform op).lines.size = t.lines.size := by
      cases op with
      | accept => simp [Server.perform, Server.accept, stopped]
      | turn i turn =>
        obtain ⟨_, _, running, size, _⟩ := t.perform_elsewhere (.inl ⟨turn, rfl⟩)
        exact ⟨running.trans stopped, size⟩
      | cut i =>
        obtain ⟨_, _, running, size, _⟩ := t.perform_elsewhere (.inr rfl)
        exact ⟨running.trans stopped, size⟩
      | receive i bytes | halfClose i | close i => exact ⟨stopped, by simp [Server.perform, Server.receive,
          Server.halfClose, Server.close, modifySession]⟩
      | advance ms => exact ⟨stopped, rfl⟩
      | stop => exact ⟨rfl, rfl⟩
    obtain ⟨still, size⟩ := ih step.1
    exact ⟨still, size.trans step.2⟩

/-- When every connection was cut off, all have ended. -/
private theorem ended_of_cuts (stopped : t.running = false) {after : List Operation}
    (all : ∀ i < t.lines.size, .cut i ∈ after) (found : (t.run after).lines[i]? = some line) :
    line.session.hasEnded = true := by
  have inside : i < t.lines.size := by
    rw [← (stopped_run stopped after).2]
    exact (Array.getElem?_eq_some_iff.mp found).1
  obtain ⟨before, later, rfl⟩ := List.append_of_mem (all i inside)
  obtain ⟨stopped', size⟩ := stopped_run stopped before
  obtain ⟨line', cut, ended⟩ := ended_of_cut stopped' (Array.getElem?_eq_getElem (size ▸ inside))
  obtain ⟨line'', there, ended'⟩ := (run_closed cut ended later).2
  rw [run_append, run_cons, there, Option.some.injEq] at found
  rwa [← found]

/-- Nobody is blocked on connections that have ended. -/
private theorem blockedOn_of_ended
    (ended : ∀ (i : Nat) (line : Line), t.lines[i]? = some line → line.session.hasEnded = true) (key : PartitionKey) :
    t.blockedOn key i = none := by
  refine Option.eq_none_iff_forall_ne_some.mpr fun a blocked => ?_
  obtain ⟨line, place, w, found, opened, _⟩ := openWait?_of_blockedOn blocked
  obtain ⟨_, _, waiting, _⟩ := Session.waiting_of_openWait? opened
  have going := Session.live_of_waiting waiting
  rw [ended i line found] at going
  cases going

/-- When all connections have ended, nobody is left at any barrier. -/
private theorem vacant_of_ended (distinct : t.service.registry.Distinct)
    (sound : ∀ key, Barrier.Sound (t.service.registry.barrierFor key) (t.blockedOn key))
    (ended : ∀ (i : Nat) (line : Line), t.lines[i]? = some line → line.session.hasEnded = true)
    {place : Registry.Place} {b : Barrier} (there : t.service.registry.barrier? place = some b) : b.waiting = [] := by
  obtain ⟨⟨key, b'⟩, entry, rfl⟩ := Option.map_eq_some_iff.mp there
  rw [Registry.barrier?_of_find? (distinct entry), Option.some.injEq] at there
  rw [← there]
  refine List.eq_nil_iff_forall_not_mem.mpr fun ticket member => ?_
  obtain ⟨i, a, blocked, _⟩ := (sound key).owned ticket member
  rw [blockedOn_of_ended ended] at blocked
  cases blocked

/-- A connection whose wait was open, and which has ended, was told nothing but that its generation was broken. -/
private theorem Wound.failed (wound : Wound line line') (ended : line'.session.hasEnded = true) {key : PartitionKey}
    {place : Registry.Place} {w : Barrier.Wait} (opened : line.session.openWait? = some (key, place, w)) :
    ∃ session bytes, line' = ⟨session, line.outgoing ++ bytes⟩ ∧ Failing bytes := by
  obtain ⟨_, _, waiting, _⟩ := Session.waiting_of_openWait? opened
  cases wound with
  | same => simp [Session.live_of_waiting waiting] at ended
  | told _ _ => simp [Session.hasEnded] at ended
  | ended _ failing => exact ⟨_, _, rfl, failing⟩

/-- The call that waits for a response fails when it hears this. -/
private theorem Failing.breaks {bytes : Bytes} (failing : Failing bytes) {Name : Type} {c : Channel Name}
    {p : Pending Name} {rest : List (Pending Name)} (awaits : c.Awaits p rest) : c.Breaks p bytes := by
  rcases failing with rfl | ⟨message, fits, rfl⟩
  · exact awaits.breaks_of_silence
  · exact awaits.breaks_of_told fits

/-- A shutdown that was requested in the one state is over in the other: no connection is left, none is accepted any
    more, and nobody waits at any barrier. -/
structure Emptied (s t : Server) : Prop where
  ended : ∀ (i : Nat) (line : Line), t.lines[i]? = some line → line.session.hasEnded = true
  accepted : t.lines.size = s.lines.size ∧ ∀ later, (t.run later).accept = none
  vacant : ∀ {place : Registry.Place} {b : Barrier}, t.service.registry.barrier? place = some b → b.status.waiting = 0
  gauge : t.meter.waiting = 0

/-- What such a shutdown has come to that released nobody. -/
structure ShutDown (policy : AbandonPolicy) (s t : Server) : Prop extends Emptied s t where
  /-- A wait that was open fails at its worker: these are the last bytes that come, and in whatever pieces they do, the
      call does not return an index but fails with a fault which tells that the barrier is broken. -/
  failed : ∀ {i : Nat} {line : Line} {key : PartitionKey} {place : Registry.Place} {w : Barrier.Wait},
    s.lines[i]? = some line → line.session.openWait? = some (key, place, w) →
    ∃ session bytes, t.lines[i]? = some ⟨session, line.outgoing ++ bytes⟩ ∧ Failing bytes ∧
      ∀ {Name : Type} {c : Channel Name} {p : Pending Name} {rest : List (Pending Name)},
        c.Awaits p rest → c.Breaks p bytes
  /-- The barriers are left the same by every order of events. -/
  registry : t.service.registry = s.service.registry.deserted
  /-- Under the break policy those generations are broken that had a blocked party, and under the other one none is. -/
  broken : ∀ key g, (t.service.registry.barrierFor key).outcome? g = some .broken ∧
      (s.service.registry.barrierFor key).outcome? g ≠ some .broken ↔
    policy = .breakGeneration ∧ ∃ i a, s.blockedOn key i = some a ∧ a.generation = g
  breaks : t.meter.breaks = s.meter.breaks + if policy = .breakGeneration then s.service.registry.occupied else 0
  releases : t.meter.releases = s.meter.releases

/-- Whatever happens after the request for a shutdown, nobody is left when all connections were cut off. -/
private theorem Resting.emptied (resting : s.Resting) {after : List Operation}
    (all : ∀ i < s.lines.size, .cut i ∈ after) : Emptied s (s.run (.stop :: after)) := by
  have turned := run_turned resting.linked (.stop :: after)
  have gauge := gauge_of_run resting.linked resting.gauge (.stop :: after)
  have stopped : (s.perform .stop).running = false := rfl
  have ended : ∀ (i : Nat) (line : Line), (s.run (.stop :: after)).lines[i]? = some line →
      line.session.hasEnded = true := fun i line => ended_of_cuts stopped all
  obtain ⟨still, size⟩ := stopped_run stopped after
  rw [← run_cons] at still size
  generalize s.run (.stop :: after) = t at *
  refine ⟨ended, ⟨size, fun later => ?_⟩, fun there => ?_, ?_⟩
  · simp [Server.accept, (stopped_run still later).1]
  · have nobody := vacant_of_ended (turned.more.distinct resting.distinct)
      (fun key => (turned.moves key (resting.sound key)).sound (resting.sound key)) ended there
    simp [Barrier.status, nobody]
  · rw [gauge, arrived_of_ended ended]
    rfl

/-- However a server winds down, it comes to the same. -/
theorem Resting.shutDown (resting : s.Resting) {after : List Operation} (winds : ∀ op ∈ after, s.WindsDown op)
    (all : ∀ i < s.lines.size, .cut i ∈ after) :
    ShutDown s.service.registry.options.policy s (s.run (.stop :: after)) := by
  have emptied := resting.emptied all
  have winding := (winding_stop s).run resting winds
  rw [← run_cons] at winding
  generalize s.run (.stop :: after) = t at *
  have registry := winding.registry.eq_deserted fun there => List.length_eq_zero_iff.mp (emptied.vacant there)
  exact {
    emptied with
    failed := by
      intro i line key place w found opened
      obtain ⟨line', there, wound⟩ := winding.lines found
      obtain ⟨session, bytes, rfl, failing⟩ := wound.failed (emptied.ended _ _ there) opened
      exact ⟨session, bytes, there, failing, failing.breaks⟩
    registry := registry
    broken := by
      intro key g
      rw [registry, Registry.barrierFor_deserted, resting.blocked_iff key g, ← resting.options key]
      exact Barrier.newly_broken_iff (resting.sound key) g
    breaks := by
      have balance := winding.breaks
      have entered : ∀ e ∈ s.service.registry.entries, s.service.registry.barrierFor e.1 = e.2 :=
        fun _ member => Registry.Distinct.barrierFor_of_mem resting.distinct member
      have left := Registry.intact_deserted (r := s.service.registry)
        (fun e member => by rw [← entered e member, resting.options])
        (fun e member => by rw [← entered e member]; exact (resting.sound e.1).emptied)
      rw [registry] at balance
      omega
    releases := winding.releases }

theorem atRest_of_lines (still : ∀ i < s.lines.size, (s.turn i .input).isNone ∧ (s.turn i .look).isNone) :
    s.AtRest := by
  intro i t
  by_cases inside : i < s.lines.size
  · obtain ⟨input, look⟩ := still i inside
    cases t with
    | input => exact Option.isNone_iff_eq_none.mp input
    | look => exact Option.isNone_iff_eq_none.mp look
  · simp [Server.turn, Array.getElem?_eq_none (Nat.le_of_not_lt inside)]

/-- Two connections wait on one key and two on another one, and one of the latter has asked to wait on the first key
    next. -/
def crossed (secret : Secret) : List Operation :=
  let asks (requests : List Request) : Bytes :=
    (Request.hello secret.toBase64 :: requests).flatMap fun r => Frame.frame r.encode
  let turns (i : Nat) : List Operation := [.turn i .input, .turn i .input, .turn i .input, .turn i .look]
  [.accept, .accept, .accept, .accept, .receive 0 (asks [.getBarrier ⟨"a", "b"⟩, .wait 1 none]),
    .receive 1 (asks [.getBarrier ⟨"a", "b"⟩, .wait 1 none]),
    .receive 2 (asks [.getBarrier ⟨"c", "d"⟩, .wait 1 none, .getBarrier ⟨"a", "b"⟩, .wait 2 none]),
    .receive 3 (asks [.getBarrier ⟨"c", "d"⟩, .wait 1 none])] ++
    turns 0 ++ turns 1 ++ turns 2 ++ [.turn 2 .input, .turn 2 .input] ++ turns 3

/-- A wait that was put aside is taken up after the first cut, and completes a generation before the second one. -/
theorem shutdown_releases_crossed :
    let s := (start { parties := 3 } ⟨List.replicate 32 7, rfl⟩ (.v4 127 0 0 1 50000) Request.complaint).run
      (crossed ⟨List.replicate 32 7, rfl⟩)
    let after : List Operation := [.cut 3, .turn 2 .look, .turn 2 .input, .turn 2 .input, .turn 2 .look, .turn 0 .look,
      .turn 1 .look, .cut 0, .cut 1, .cut 2]
    let t := s.run (.stop :: after)
    s.AtRest ∧ (∀ i < s.lines.size, .cut i ∈ after) ∧ s.meter.waiting = 4 ∧ t.meter.releases = 1 ∧
      ∀ i < 2, t.lines[i]?.map Line.outgoing = s.lines[i]?.map fun line => line.outgoing ++ frameOf (.arrived i) := by
  intro s after t
  have shown : (∀ i < s.lines.size, (s.turn i .input).isNone ∧ (s.turn i .look).isNone) ∧
      (∀ i < s.lines.size, Operation.cut i ∈ after) ∧ s.meter.waiting = 4 ∧ t.meter.releases = 1 ∧
      ∀ i < 2, t.lines[i]?.map Line.outgoing = s.lines[i]?.map fun line => line.outgoing ++ frameOf (.arrived i) := by
    decide +kernel
  exact ⟨atRest_of_lines shown.1, shown.2⟩

end Lockstep.Server
