import Lockstep.Proofs.Server.Chronicle

/-!
# Who is counted

A barrier counts the waits of open connections and nothing else: each of them
once, and at rest all of them. A connection that ends takes its wait along,
either because the wait was over or by giving it up, and that is the end of it.
-/
namespace Lockstep

namespace Session
open Server

/-- The handle of the wait that is the oldest request without an answer, if that is a wait. -/
def awaited? (s : Session) : Option Handle :=
  match s.phase with
  | .waiting h _ _ => some h
  | .serving =>
    match s.frame?.bind Request.decode? with
    | some (.wait h _) => some h
    | _ => none
  | _ => none

/-- The connection is open and authenticated, and its oldest request without an answer is a wait on this key. -/
def Awaits (s : Session) (key : PartitionKey) : Prop :=
  ∃ h place, s.awaited? = some h ∧ s.binding? h = some (key, place)

variable {service : Service} {now : Nat} {s : Session} {key : PartitionKey} {place : Registry.Place}

theorem awaits_of_openWait? {w : Barrier.Wait} (opened : s.openWait? = some (key, place, w)) : s.Awaits key := by
  obtain ⟨h, place', waiting, found⟩ := waiting_of_openWait? opened
  exact ⟨h, place', by simp [awaited?, waiting], found⟩

/-- At rest a connection that is served has no frame left. -/
private theorem frame?_of_rest (rest : s.turn service now .input = none) (serving : s.phase = .serving) :
    s.frame? = none := by
  simp only [turn, takeInput, serving] at rest
  cases aside : s.backlog with
  | cons body backlog => simp [aside] at rest
  | nil =>
    simp only [aside] at rest
    cases item : s.inlet.next.1 <;> simp [takeItem, item] at rest
    simp [frame?, serving, aside, item]

/-- A stream that is over always yields something. -/
private theorem closed_of_pending {i : Frame.Inlet} (pending : i.next.1 = .pending) : i.closed = false := by
  cases closed : i.closed with
  | false => rfl
  | true =>
    unfold Frame.Inlet.next at pending
    split at pending
    · cases pending
    · cases found : i.reader.read with
      | frame body rest => simp [found] at pending
      | oversized => simp [found] at pending
      | starved rest =>
        cases empty : rest.buffer.isEmpty <;> simp_all

/-- At rest the stream of an open wait is not over. -/
private theorem open_of_rest (rest : s.turn service now .input = none) {h : Handle} {w : Barrier.Wait}
    (waiting : s.phase = .waiting h place w) : s.inlet.closed = false := by
  simp only [turn, takeInput, waiting] at rest
  cases item : s.inlet.next.1 <;> simp [takeItem, item] at rest
  exact closed_of_pending item

/-- When a connection ends while its wait is open, the wait has just returned, or it is given up. -/
private theorem Did.ends {t : Turn} {m : Moved} (did : Did service now s t m) (bound : Bound service.registry s)
    {i : Nat} {w : Barrier.Wait} {a : Barrier.Arrival} (opened : s.openWait? = some (key, place, w))
    (arrived : w.arrival = some a) (ended : m.session.hasEnded = true) :
    (∃ result, eventsAt key (s.turnEvents service now i t m) = [.returned i a.generation result]) ∨
      (eventsAt key (s.turnEvents service now i t m) = [.left i a.generation] ∧
        m.registry.barrierFor key = ((service.registry.barrierFor key).drop w).1) := by
  obtain ⟨h, waiting, found, located⟩ := bound.waiting_of_openWait? opened
  cases did with
  | leave waiting' registry handles how other =>
    rw [waiting] at waiting'
    cases waiting'
    refine .inr ⟨?_, ?_⟩
    · rw [eventsAt_input, if_pos ended, eventsAt_dropEvents waiting found, if_pos rfl, Barrier.dropEvents, arrived]
    · rw [registry, Registry.update_eq located, Registry.barrierFor_put located, if_pos rfl]
  | finish waiting' there polled registry handles idle sent =>
    rename_i b result
    rw [waiting] at waiting'
    cases waiting'
    refine .inl ⟨result, ?_⟩
    rw [eventsAt_look]
    simp [pollEvents, opened, there, Barrier.pollEvents, polled, arrived, Barrier.Wait.generation]
  | stray waiting' missing => exact absurd missing (bound.ne_none waiting')
  | _ => simp_all [hasEnded]

/-- At rest an open wait stays as it is when it is polled. -/
theorem pending_of_rest (rest : s.turn service now .look = none) {h : Handle} {w : Barrier.Wait} {b : Barrier}
    (waiting : s.phase = .waiting h place w) (there : service.registry.barrier? place = some b) :
    (b.poll now w).2.1 = .pending w := by
  simp only [turn, look, waiting, pollWait, there, ite_eq_left_iff, reduceCtorEq, imp_false, not_not] at rest
  rcases polled : b.poll now w with ⟨b', poll, meter⟩
  cases poll with
  | done result =>
    simp only [polled] at rest
    obtain ⟨_, _, idle, _⟩ := reply_eq (s := { s with phase := .serving }) (service.registry.put place b')
      (responseOf result) meter rfl
    exact absurd rest (idle.ne_waiting h place w)
  | pending w' =>
    simp only [polled, Phase.waiting.injEq, true_and] at rest
    rw [rest]

/-- At rest an open wait has arrived, and its generation has no outcome. -/
private theorem blocked_of_rest (rest : s.turn service now .look = none) {h : Handle} {w : Barrier.Wait} {b : Barrier}
    (waiting : s.phase = .waiting h place w) (there : service.registry.barrier? place = some b) :
    ∃ a, w.arrival = some a ∧ b.outcome? a.generation = none := by
  have pending := pending_of_rest rest waiting there
  obtain ⟨a, arrived⟩ := Barrier.arrival_of_pending pending
  refine ⟨a, arrived, ?_⟩
  cases known : b.outcome? a.generation with
  | none => rfl
  | some outcome =>
    rw [Barrier.poll_of_outcome arrived known] at pending
    cases pending

end Session

namespace Server

variable {s s' : Server} {es h : List Event} {i : Nat} {line line' : Line}

/-- Nothing more is shown of a connection that has ended, and it stays so. -/
private theorem Step.closed (step : Step s es s') (found : s.lines[i]? = some line)
    (ended : line.session.hasEnded = true) :
    (∀ e ∈ es, e.connection ≠ i) ∧ ∃ line', s'.lines[i]? = some line' ∧ line'.session.hasEnded = true := by
  cases step with
  | quiet service size lines =>
    obtain ⟨inside, _⟩ := Array.getElem?_eq_some_iff.mp found
    have found' := Array.getElem?_eq_getElem (Nat.lt_of_lt_of_le inside size)
    refine ⟨by simp, _, found', ?_⟩
    rcases lines found' with ⟨line', here, phase, _, _⟩ | ⟨here, _⟩
    · rw [found] at here
      cases here
      simpa [Session.hasEnded, phase] using ended
    · rw [found] at here
      cases here
  | @turn _ j t line' m found' moved service lines =>
    have other : j ≠ i := by
      rintro rfl
      rw [found] at found'
      cases found'
      rw [Session.turn_of_ended ended] at moved
      cases moved
    refine ⟨fun e member => by rw [Session.connection_turnEvents e member]; exact other, line, ?_, ended⟩
    rw [lines, getElem?_set found', if_neg (Ne.symm other)]
    exact found
  | @cut _ j line' found' going service lines =>
    have other : j ≠ i := by
      rintro rfl
      rw [found] at found'
      cases found'
      rw [ended] at going
      cases going
    refine ⟨fun e member => by rw [Session.connection_dropEvents j _ e member]; exact other, line, ?_, ended⟩
    rw [lines, getElem?_set found', if_neg (Ne.symm other)]
    exact found

theorem run_closed (found : s.lines[i]? = some line) (ended : line.session.hasEnded = true) (ops : List Operation) :
    (∀ e ∈ s.history ops, e.connection ≠ i) ∧
      ∃ line', (s.run ops).lines[i]? = some line' ∧ line'.session.hasEnded = true := by
  induction ops generalizing s line with
  | nil => exact ⟨by simp, line, found, ended⟩
  | cons op ops ih =>
    obtain ⟨silent, line', found', ended'⟩ := (perform_step s op).closed found ended
    obtain ⟨later, final⟩ := ih found' ended'
    refine ⟨fun e member => ?_, final⟩
    exact (List.mem_append.mp member).elim (silent e) (later e)

/-- What becomes of an open wait that has arrived when its connection ends: it returned, or it is given up. -/
private theorem Step.ends (step : Step s es s') (linked : s.Linked) (found : s.lines[i]? = some line)
    {key : PartitionKey} {place : Registry.Place} {w : Barrier.Wait} {a : Barrier.Arrival}
    (opened : line.session.openWait? = some (key, place, w)) (arrived : w.arrival = some a)
    (found' : s'.lines[i]? = some line') (ended : line'.session.hasEnded = true) :
    (∃ result, eventsAt key es = [.returned i a.generation result]) ∨
      (eventsAt key es = [.left i a.generation] ∧
        s'.service.registry.barrierFor key = ((s.service.registry.barrierFor key).drop w).1) := by
  obtain ⟨h, waiting, bound, located⟩ := (linked found).waiting_of_openWait? opened
  have going : line.session.hasEnded = false := by simp [Session.hasEnded, waiting]
  have dropped : eventsAt key (line.session.dropEvents i) = [.left i a.generation] := by
    simp [Session.eventsAt_dropEvents waiting bound, Barrier.dropEvents, arrived]
  have given : ((s.service.registry.update place (·.drop w)).1).barrierFor key =
      ((s.service.registry.barrierFor key).drop w).1 := by
    rw [Registry.update_eq located, Registry.barrierFor_put located, if_pos rfl]
  cases step with
  | quiet service size lines =>
    rcases lines found' with ⟨line'', here, phase, _, _⟩ | ⟨here, _⟩
    · rw [found] at here
      cases here
      simp [Session.hasEnded, phase, waiting] at ended
    · rw [found] at here
      cases here
  | @turn _ j t line'' m there moved service lines =>
    rw [lines, getElem?_set there] at found'
    by_cases same : i = j
    · subst same
      rw [found] at there
      cases there
      rw [if_pos rfl] at found'
      cases found'
      rw [service]
      exact (Session.turn_did moved).ends (linked found) opened arrived ended
    · rw [if_neg same, found] at found'
      cases found'
      rw [going] at ended
      cases ended
  | @cut _ j line'' there _ service lines =>
    rw [lines, getElem?_set there] at found'
    by_cases same : i = j
    · subst same
      rw [found] at there
      cases there
      refine .inr ⟨dropped, ?_⟩
      rw [service, Session.abandon_of_waiting _ waiting]
      exact given
    · rw [if_neg same, found] at found'
      cases found'
      rw [going] at ended
      cases ended

/-- The parties that the barrier of a key counts are the waits of these connections, one by one. -/
structure Counted (s : Server) (h : List Event) (key : PartitionKey) (b : Barrier) (connections : List Nat) : Prop where
  distinct : connections.Nodup
  count : connections.length = b.status.waiting
  aligned : Barrier.Aligned (s.blockedOn key) b.generation b.waiting connections
  /-- Each of them is open, has shown the secret, and its oldest request without an answer is a wait on the key. -/
  awaiting : ∀ i ∈ connections, .authenticated i ∈ h ∧ ∃ line, s.lines[i]? = some line ∧ line.session.Awaits key
  /-- At rest all such connections are among them. -/
  complete : s.AtRest → ∀ i line, s.lines[i]? = some line → line.session.Awaits key → i ∈ connections
  /-- At rest no peer of theirs has gone away. -/
  attended : s.AtRest → ∀ i ∈ connections, ∃ line, s.lines[i]? = some line ∧ line.session.inlet.closed = false

theorem AtRest.turn (rest : s.AtRest) (found : s.lines[i]? = some line) (t : Session.Turn) :
    line.session.turn s.service s.now t = none := by
  have still := rest i t
  simp only [Server.turn, found] at still
  cases moved : line.session.turn s.service s.now t with
  | none => rfl
  | some m => simp [moved] at still

theorem openWait?_of_blockedOn {key : PartitionKey} {a : Barrier.Arrival} (blocked : s.blockedOn key i = some a) :
    ∃ line place w, s.lines[i]? = some line ∧ line.session.openWait? = some (key, place, w) ∧ w.arrival = some a := by
  obtain ⟨line, found, arrival⟩ := Option.bind_eq_some_iff.mp blocked
  unfold Session.arrivalOn? at arrival
  split at arrival
  · rename_i k place w opened
    split at arrival
    · rename_i same
      exact ⟨line, place, w, found, by rw [opened, same], arrival⟩
    · cases arrival
  · cases arrival

/-- At rest, whoever awaits a key is a party of the current generation. -/
theorem AtRest.blocked (rest : s.AtRest) (linked : s.Linked) {key : PartitionKey}
    (sound : Barrier.Sound (s.service.registry.barrierFor key) (s.blockedOn key)) (found : s.lines[i]? = some line)
    (awaits : line.session.Awaits key) :
    ∃ a, s.blockedOn key i = some a ∧ a.generation = (s.service.registry.barrierFor key).generation ∧
      (s.service.registry.barrierFor key).broken = false := by
  obtain ⟨h, place, awaited, bound⟩ := awaits
  cases phase : line.session.phase with
  | waiting h' place' w =>
    simp only [Session.awaited?, phase, Option.some.injEq] at awaited
    obtain ⟨key', bound'⟩ := (linked found).waits phase
    rw [awaited, bound] at bound'
    cases bound'
    have there := Registry.barrier?_of_find? ((linked found).find? bound)
    obtain ⟨a, arrived, unknown⟩ := Session.blocked_of_rest (rest.turn found .look) phase there
    have blocked : s.blockedOn key i = some a := by
      rw [blockedOn_of_line found, Session.arrivalOn?_of_waiting phase (by rw [awaited]; exact bound), if_pos rfl]
      exact arrived
    have begun := sound.begun blocked
    rcases (sound.outcome?_eq_none_iff _).mp unknown with later | ⟨current, unbroken⟩
    · omega
    · exact ⟨a, blocked, current.symm, unbroken⟩
  | serving =>
    simp [Session.awaited?, phase, Session.frame?_of_rest (rest.turn found .input) phase] at awaited
  | greeting deadline => simp [Session.awaited?, phase] at awaited
  | ended how => simp [Session.awaited?, phase] at awaited

private theorem counted_of_aligned {key : PartitionKey} {connections : List Nat} (linked : s.Linked)
    (chronicle : s.Chronicle h) (sound : Barrier.Sound (s.service.registry.barrierFor key) (s.blockedOn key))
    (aligned : Barrier.Aligned (s.blockedOn key) (s.service.registry.barrierFor key).generation
      (s.service.registry.barrierFor key).waiting connections) :
    s.Counted h key (s.service.registry.barrierFor key) connections where
  distinct := aligned.nodup sound.nodup
  count := aligned.length_eq.symm
  aligned := aligned
  awaiting := fun i member => by
    obtain ⟨a, blocked, _⟩ := aligned.arrival_of_mem member
    obtain ⟨line, place, w, found, opened, _⟩ := openWait?_of_blockedOn blocked
    obtain ⟨_, _, waiting, _⟩ := Session.waiting_of_openWait? opened
    exact ⟨(chronicle.told found).waiting waiting, line, found, Session.awaits_of_openWait? opened⟩
  complete := fun rest i line found awaits => by
    obtain ⟨a, blocked, current, unbroken⟩ := rest.blocked linked sound found awaits
    obtain ⟨index, place, _⟩ := aligned.index sound.apart blocked current (sound.counted unbroken blocked current)
    exact List.mem_of_getElem? place
  attended := fun rest i member => by
    obtain ⟨a, blocked, _⟩ := aligned.arrival_of_mem member
    obtain ⟨line, place, w, found, opened, _⟩ := openWait?_of_blockedOn blocked
    obtain ⟨_, _, waiting, _⟩ := Session.waiting_of_openWait? opened
    exact ⟨line, found, Session.open_of_rest (rest.turn found .input) waiting⟩

/-- What a barrier counts are the waits on its key, whatever has happened before. -/
theorem counted_of_run (config : ServerConfig) (secret : Secret) (address : Address) (complaint : Bytes → String)
    (ops : List Operation) {place : Registry.Place} {b : Barrier}
    (there : ((start config secret address complaint).run ops).service.registry.barrier? place = some b) :
    b.options = config.barrierOptions ∧ ∃ key connections,
      ((start config secret address complaint).run ops).service.registry.find? key = some place ∧
      ((start config secret address complaint).run ops).Counted
        ((start config secret address complaint).history ops) key b
        connections := by
  obtain ⟨key, found⟩ := find?_of_barrier? config secret address complaint there
  have linked : ((start config secret address complaint).run ops).Linked :=
    (start_turned config secret address complaint ops).linked
  have positive := positive_of_find? config secret address complaint found
  obtain ⟨sound, options, stories⟩ := story_of_run config secret address complaint positive ops key
  rw [Registry.barrier?_of_find? found, Option.some.injEq] at there
  subst there
  have aligned : ∃ connections, Barrier.Aligned (((start config secret address complaint).run ops).blockedOn key)
      (((start config secret address complaint).run ops).service.registry.barrierFor key).generation
      (((start config secret address complaint).run ops).service.registry.barrierFor key).waiting connections := by
    cases broken : (((start config secret address complaint).run ops).service.registry.barrierFor key).broken with
    | true => exact ⟨[], by rw [sound.emptied broken]; exact .nil⟩
    | false =>
      have unknown := (sound.outcome?_eq_none_iff _).mpr (.inr ⟨rfl, broken⟩)
      exact ⟨_, by simpa using ((stories _).unsettled unknown).aligned⟩
  obtain ⟨connections, aligned⟩ := aligned
  exact ⟨options, key, connections, found,
    counted_of_aligned linked (start_chronicle config secret address complaint ops) sound aligned⟩

/-- A connection that has ended shows nothing more, and nothing of it is blocked. -/
private theorem silent_of_ended (found : s.lines[i]? = some line) (ended : line.session.hasEnded = true)
    (ops : List Operation) :
    (∀ e ∈ s.history ops, e.connection ≠ i) ∧ ∀ key, (s.run ops).blockedOn key i = none := by
  obtain ⟨silent, line', final, past⟩ := run_closed found ended ops
  refine ⟨silent, fun key => ?_⟩
  rw [blockedOn_of_line final]
  refine Session.arrivalOn?_of_none key (Session.openWait?_eq_none fun h place w waiting => ?_)
  simp [Session.hasEnded, waiting] at past

/-- Every barrier counts open waits on its key, each connection once, and at rest all of them. When a connection ends
    while its wait is open, the wait has just returned or it leaves the barrier as the policy says; after that nothing
    is shown of the connection any more and nothing of it is blocked. -/
theorem no_ghost_arrivals (config : ServerConfig) (secret : Secret) (address : Address) (complaint : Bytes → String)
    (ops : List Operation) :
    let s := (start config secret address complaint).run ops
    let h := (start config secret address complaint).history ops
    (∀ place b, s.service.registry.barrier? place = some b → b.options = config.barrierOptions ∧
      ∃ key connections, s.service.registry.find? key = some place ∧ s.Counted h key b connections) ∧
    ∀ op i line line' key place w a b, s.lines[i]? = some line → line.session.openWait? = some (key, place, w) →
      w.arrival = some a → s.service.registry.barrier? place = some b → (s.perform op).lines[i]? = some line' →
      line'.session.hasEnded = true →
      ((∃ result, eventsAt key (s.events op) = [.returned i a.generation result]) ∨
        (eventsAt key (s.events op) = [.left i a.generation] ∧
          (s.perform op).service.registry.barrier? place = some (b.drop w).1)) ∧
      ∀ more, (∀ e ∈ (s.perform op).history more, e.connection ≠ i) ∧
        ∀ key', ((s.perform op).run more).blockedOn key' i = none := by
  intro s h
  refine ⟨fun place b there => counted_of_run config secret address complaint ops there, ?_⟩
  intro op i line line' key place w a b found opened arrived there found' ended
  refine ⟨?_, silent_of_ended found' ended⟩
  have linked : s.Linked := (start_turned config secret address complaint ops).linked
  have step := perform_step s op
  obtain ⟨_, _, _, located⟩ := (linked found).waiting_of_openWait? opened
  rcases step.ends linked found opened arrived found' ended with returned | ⟨left, given⟩
  · exact .inl returned
  · refine .inr ⟨left, ?_⟩
    rw [Registry.barrier?_of_find? located, Option.some.injEq] at there
    rw [Registry.barrier?_of_find? ((step.turned linked).more.kept located), given, there]

end Server
end Lockstep
