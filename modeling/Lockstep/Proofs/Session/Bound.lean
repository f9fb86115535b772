import Lockstep.Proofs.Barrier.Moves
import Lockstep.Proofs.Registry.Lookup
import Lockstep.Proofs.Session.Turns

namespace Lockstep

open Server

namespace Session

/-- The arrival of the open wait, if that is a wait on this key. -/
def arrivalOn? (key : PartitionKey) (s : Session) : Option Barrier.Arrival :=
  match s.openWait? with
  | some (k, _, w) => if k = key then w.arrival else none
  | none => none

/-- Handles lead to the barriers of their keys, and the wait that is open has a handle. -/
structure Bound (r : Registry) (s : Session) : Prop where
  handles : ∀ e ∈ s.handles, r.find? e.1 = some e.2
  waits : ∀ {h place w}, s.phase = .waiting h place w → ∃ key, s.binding? h = some (key, place)

variable {r r' : Registry} {s s' : Session} {key : PartitionKey} {place : Registry.Place} {h : Handle}

theorem Bound.new (r : Registry) : Bound r .new where
  handles := by simp [Session.new]
  waits := fun waiting => by simp [Session.new] at waiting

theorem Bound.mono (bound : Bound r s) (more : r.Extends r') : Bound r' s where
  handles := fun e member => more.kept (bound.handles e member)
  waits := bound.waits

theorem Bound.congr (bound : Bound r s) (phase : s'.phase = s.phase) (handles : s'.handles = s.handles) :
    Bound r s' where
  handles := by rw [handles]; exact bound.handles
  waits := fun waiting => by
    obtain ⟨key, found⟩ := bound.waits (phase ▸ waiting)
    exact ⟨key, by simpa [binding?, handles] using found⟩

private theorem Bound.of_idle (handles : ∀ e ∈ s.handles, r.find? e.1 = some e.2) (idle : s.Idle) : Bound r s where
  handles := handles
  waits := fun waiting => absurd waiting (idle.ne_waiting _ _ _)

theorem Bound.find? (bound : Bound r s) (found : s.binding? h = some (key, place)) : r.find? key = some place := by
  unfold binding? at found
  split at found
  · cases found
  · exact bound.handles _ (Array.mem_of_getElem? found)

theorem Bound.ne_none (bound : Bound r s) {w : Barrier.Wait} (waiting : s.phase = .waiting h place w) :
    r.barrier? place ≠ none := by
  obtain ⟨key, found⟩ := bound.waits waiting
  simp [Registry.barrier?_of_find? (bound.find? found)]

theorem openWait?_of_waiting {w : Barrier.Wait} (waiting : s.phase = .waiting h place w)
    (found : s.binding? h = some (key, place)) : s.openWait? = some (key, place, w) := by
  simp [openWait?, waiting, found]

theorem waiting_of_openWait? {w : Barrier.Wait} (opened : s.openWait? = some (key, place, w)) :
    ∃ h place', s.phase = .waiting h place w ∧ s.binding? h = some (key, place') := by
  cases phase : s.phase with
  | waiting h place' w' =>
    simp only [openWait?, phase, Option.map_eq_some_iff] at opened
    obtain ⟨⟨key', place''⟩, found, same⟩ := opened
    cases same
    exact ⟨h, place'', rfl, found⟩
  | _ => simp [openWait?, phase] at opened

/-- An open wait is at the barrier of its key. -/
theorem Bound.waiting_of_openWait? (bound : Bound r s) {w : Barrier.Wait}
    (opened : s.openWait? = some (key, place, w)) :
    ∃ h, s.phase = .waiting h place w ∧ s.binding? h = some (key, place) ∧ r.find? key = some place := by
  obtain ⟨h, place', waiting, found⟩ := Session.waiting_of_openWait? opened
  obtain ⟨key', found'⟩ := bound.waits waiting
  rw [found'] at found
  cases found
  exact ⟨h, waiting, found', bound.find? found'⟩

theorem openWait?_eq_none (idle : ∀ h place w, s.phase ≠ .waiting h place w) : s.openWait? = none := by
  unfold openWait?
  split
  · rename_i h place w waiting
    exact absurd waiting (idle h place w)
  · rfl

theorem Idle.openWait? (idle : s.Idle) : s.openWait? = none :=
  openWait?_eq_none idle.ne_waiting

theorem openWait?_congr (phase : s'.phase = s.phase) (handles : s'.handles = s.handles) :
    s'.openWait? = s.openWait? := by
  have binding : ∀ h, s'.binding? h = s.binding? h := fun h => by simp [binding?, handles]
  simp only [openWait?, phase, binding]

theorem arrivalOn?_of_none (key : PartitionKey) (closed : s.openWait? = none) : s.arrivalOn? key = none := by
  simp [arrivalOn?, closed]

theorem arrivalOn?_of_waiting {w : Barrier.Wait} (waiting : s.phase = .waiting h place w)
    (found : s.binding? h = some (key, place)) (other : PartitionKey) :
    s.arrivalOn? other = if key = other then w.arrival else none := by
  simp [arrivalOn?, openWait?_of_waiting waiting found]

section
variable {service : Service} {now : Nat} (i : Nat)

private theorem eventsAt_readEvents (key : PartitionKey) (s : Session) :
    eventsAt key (s.readEvents service i) = [] := by
  refine eventsAt_eq_nil fun e member => ?_
  unfold readEvents at member
  split at member
  · simp at member
  · split at member
    · split at member <;> simp at member
    · split at member <;> simp at member

private theorem eventsAt_openEvents (key : PartitionKey) (before after : Session) :
    eventsAt key (openEvents i before after) = [] := by
  refine eventsAt_eq_nil fun e member => ?_
  unfold openEvents at member
  split at member <;> simp at member

private theorem eventsAt_sent (key : PartitionKey) (sent : Option Response) (about : Option (PartitionKey × Nat)) :
    eventsAt key (sent.map fun response => Event.sent i response about).toList = [] := by
  refine eventsAt_eq_nil fun e member => ?_
  cases sent <;> simp at member

/-- Reading, beginning a wait and answering are no events of a barrier. -/
theorem eventsAt_input (key : PartitionKey) (s : Session) (m : Moved) :
    eventsAt key (s.turnEvents service now i .input m) =
      if m.session.hasEnded then eventsAt key (s.dropEvents i) else [] := by
  simp only [turnEvents, eventsAt_append, eventsAt_readEvents, eventsAt_openEvents, eventsAt_sent, List.append_nil,
    List.nil_append]
  split <;> rfl

theorem eventsAt_look (key : PartitionKey) (s : Session) (m : Moved) :
    eventsAt key (s.turnEvents service now i .look m) = eventsAt key (s.pollEvents service now i) := by
  simp only [turnEvents, eventsAt_append, eventsAt_sent, List.append_nil]

end

/-- What is shown at any key is what becomes of its barrier and of the open wait. -/
structure Acts (r : Registry) (s : Session) (i : Nat) (es : List Event) (r' : Registry) (s' : Session) : Prop where
  more : r.Extends r'
  bound : Bound r' s'
  moves : ∀ key blocked, blocked i = s.arrivalOn? key → Barrier.Sound (r.barrierFor key) blocked →
    Barrier.Moves (r.barrierFor key) blocked (eventsAt key es) (r'.barrierFor key)
      (Function.update blocked i (s'.arrivalOn? key))

/-- A turn that leaves the barriers and the open wait as they were. -/
private theorem Acts.still {i : Nat} {es : List Event} (more : r.Extends r') (bound : Bound r' s')
    (same : ∀ key, r'.barrierFor key = r.barrierFor key) (silent : ∀ key, eventsAt key es = [])
    (arrival : ∀ key, s'.arrivalOn? key = s.arrivalOn? key) : Acts r s i es r' s' where
  more := more
  bound := bound
  moves := fun key blocked here _ => by
    have idle : Function.update blocked i (s'.arrivalOn? key) = blocked := by
      rw [arrival, ← here]
      exact Function.update_eq_self i blocked
    rw [same, silent, idle]
    exact .none _ _

/-- A turn at the barrier of one key leaves all others as they were. -/
private theorem Acts.atKey {i : Nat} {es : List Event} {b : Barrier} (found : r.find? key = some place)
    (bound : Bound (r.put place b) s') (elsewhere : ∀ other, other ≠ key → eventsAt other es = [])
    (quiet : ∀ other, other ≠ key → s.arrivalOn? other = none)
    (quiet' : ∀ other, other ≠ key → s'.arrivalOn? other = none)
    (moves : ∀ blocked, blocked i = s.arrivalOn? key → Barrier.Sound (r.barrierFor key) blocked →
      Barrier.Moves (r.barrierFor key) blocked (eventsAt key es) b (Function.update blocked i (s'.arrivalOn? key))) :
    Acts r s i es (r.put place b) s' where
  more := r.put_extends place b
  bound := bound
  moves := fun other blocked here sound => by
    rw [Registry.barrierFor_put found]
    by_cases same : other = key
    · subst same
      rw [if_pos rfl]
      exact moves blocked here sound
    · have idle : Function.update blocked i (s'.arrivalOn? other) = blocked := by
        rw [quiet' other same, ← quiet other same, ← here]
        exact Function.update_eq_self i blocked
      rw [if_neg same, elsewhere other same, idle]
      exact .none _ _

private theorem Bound.push (bound : Bound r s) (found : r.find? key = some place) :
    ∀ e ∈ s.handles.push (key, place), r.find? e.1 = some e.2 := by
  intro e member
  rcases Array.mem_push.mp member with earlier | rfl
  · exact bound.handles e earlier
  · exact found

theorem eventsAt_dropEvents {w : Barrier.Wait} (waiting : s.phase = .waiting h place w)
    (found : s.binding? h = some (key, place)) (i : Nat) (other : PartitionKey) :
    eventsAt other (s.dropEvents i) = if key = other then Barrier.dropEvents i w else [] := by
  simp [dropEvents, openWait?_of_waiting waiting found]

theorem dropEvents_of_none (i : Nat) (closed : s.openWait? = none) : s.dropEvents i = [] := by
  simp [dropEvents, closed]

/-- A wait that is given up leaves its barrier. -/
private theorem Acts.leave {i : Nat} {es : List Event} {w : Barrier.Wait} (bound : Bound r s)
    (waiting : s.phase = .waiting h place w) (handles : s'.handles = s.handles) (idle : s'.Idle)
    (shown : ∀ key, eventsAt key es = eventsAt key (s.dropEvents i)) :
    Acts r s i es (r.update place (·.drop w)).1 s' := by
  obtain ⟨key, found⟩ := bound.waits waiting
  have known := bound.find? found
  have arrival := arrivalOn?_of_waiting waiting found
  rw [Registry.update_eq known]
  refine .atKey known ?_ (fun other different => ?_) (fun other different => ?_) (fun other _ => ?_)
    (fun blocked here _ => ?_)
  · exact .of_idle (by rw [handles]; exact (bound.mono (r.put_extends place _)).handles) idle
  · rw [shown, eventsAt_dropEvents waiting found, if_neg (Ne.symm different)]
  · rw [arrival, if_neg (Ne.symm different)]
  · exact arrivalOn?_of_none other idle.openWait?
  · rw [shown, eventsAt_dropEvents waiting found, if_pos rfl, arrivalOn?_of_none key idle.openWait?]
    exact Barrier.drop_moves (by rw [here, arrival, if_pos rfl])

/-- A wait that is polled is polled at its barrier, and is then as open as the poll says. -/
private theorem Acts.poll {service : Service} {now i : Nat} {m : Moved} {w : Barrier.Wait} {b : Barrier}
    (bound : Bound service.registry s) (waiting : s.phase = .waiting h place w)
    (there : service.registry.barrier? place = some b)
    (registry : m.registry = service.registry.put place (b.poll now w).1) (bound' : Bound m.registry m.session)
    (after : ∀ key, s.binding? h = some (key, place) → ∀ other,
      m.session.arrivalOn? other = if key = other then (b.poll now w).2.1.arrival else none) :
    Acts service.registry s i (s.turnEvents service now i .look m) m.registry m.session := by
  obtain ⟨key, found⟩ := bound.waits waiting
  have known := bound.find? found
  have arrival := arrivalOn?_of_waiting waiting found
  have same : service.registry.barrierFor key = b := by
    rw [Registry.barrier?_of_find? known] at there
    exact Option.some.inj there
  have shown : ∀ other, eventsAt other (s.turnEvents service now i .look m) =
      if key = other then b.pollEvents now i w else [] := by
    intro other
    rw [eventsAt_look]
    simp [pollEvents, openWait?_of_waiting waiting found, there]
  rw [registry] at bound' ⊢
  refine .atKey known bound' (fun other different => ?_) (fun other different => ?_) (fun other different => ?_)
    (fun blocked here sound => ?_)
  · rw [shown, if_neg (Ne.symm different)]
  · rw [arrival, if_neg (Ne.symm different)]
  · rw [after key found, if_neg (Ne.symm different)]
  · rw [shown, if_pos rfl, after key found, if_pos rfl]
    rw [same] at sound ⊢
    exact Barrier.poll_moves sound now (by rw [here, arrival, if_pos rfl])

section
variable {service : Service} {now : Nat} {t : Turn} {m : Moved} (i : Nat)

/-- A turn that begins and ends without an open wait shows nothing at any barrier. -/
private theorem eventsAt_of_closed (key : PartitionKey) (closed : s.openWait? = none) :
    eventsAt key (s.turnEvents service now i t m) = [] := by
  cases t with
  | input => rw [eventsAt_input, dropEvents_of_none i closed, eventsAt_nil, ite_self]
  | look => simp [eventsAt_look, pollEvents, closed]

/-- A turn that begins and ends without an open wait and leaves the barriers alone. -/
private theorem Acts.between (before : ∀ h place w, s.phase ≠ .waiting h place w)
    (more : service.registry.Extends m.registry)
    (same : ∀ key, m.registry.barrierFor key = service.registry.barrierFor key)
    (handles : ∀ e ∈ m.session.handles, m.registry.find? e.1 = some e.2) (idle : m.session.Idle) :
    Acts service.registry s i (s.turnEvents service now i t m) m.registry m.session := by
  have closed := openWait?_eq_none before
  refine .still more (.of_idle handles idle) same (fun key => eventsAt_of_closed i key closed) fun key => ?_
  rw [arrivalOn?_of_none key closed, arrivalOn?_of_none key idle.openWait?]

/-- A turn that does not even change the registry. -/
private theorem Acts.aside (bound : Bound service.registry s) (before : ∀ h place w, s.phase ≠ .waiting h place w)
    (registry : m.registry = service.registry) (handles : m.session.handles = s.handles) (idle : m.session.Idle) :
    Acts service.registry s i (s.turnEvents service now i t m) m.registry m.session := by
  refine .between i before ?_ (fun key => by rw [registry]) ?_ idle
  · rw [registry]
    exact .refl _
  · rw [handles, registry]
    exact bound.handles

/-- A barrier is aborted or reset while no wait is open here. -/
private theorem Acts.command {f : Barrier → Barrier × Meter} (bound : Bound service.registry s)
    (before : ∀ h place w, s.phase ≠ .waiting h place w) (found : s.binding? h = some (key, place))
    (which : f = Barrier.abort ∨ f = Barrier.reset) (registry : m.registry = (service.registry.update place f).1)
    (handles : m.session.handles = s.handles) (idle : m.session.Idle) :
    Acts service.registry s i (s.turnEvents service now i t m) m.registry m.session := by
  have known := bound.find? found
  have closed := openWait?_eq_none before
  rw [registry, Registry.update_eq known]
  refine .atKey known ?_ (fun other _ => eventsAt_of_closed i other closed)
    (fun other _ => arrivalOn?_of_none other closed) (fun other _ => arrivalOn?_of_none other idle.openWait?)
    (fun blocked here _ => ?_)
  · exact .of_idle (by rw [handles]; exact (bound.mono (service.registry.put_extends place _)).handles) idle
  · have absent : Function.update blocked i none = blocked := by
      rw [← arrivalOn?_of_none key closed, ← here]
      exact Function.update_eq_self i blocked
    rw [eventsAt_of_closed i key closed, arrivalOn?_of_none key idle.openWait?, absent]
    rcases which with rfl | rfl
    · exact Barrier.abort_moves _ _
    · exact Barrier.reset_moves _ _

end

/-- A session that runs for the first time shows nothing. -/
theorem turnEvents_begin {service : Service} {now : Nat} (fresh : s.phase = .greeting none) (i : Nat) :
    s.turnEvents service now i .look (s.begin service now) = [] := by
  simp [turnEvents, pollEvents, openWait?, begin, fresh]

/-- What every turn does at the barriers. -/
theorem Did.acts {service : Service} {now : Nat} {t : Turn} {m : Moved} (did : Did service now s t m)
    (bound : Bound service.registry s) (i : Nat) :
    Acts service.registry s i (s.turnEvents service now i t m) m.registry m.session := by
  cases did with
  | welcome greeting found admitted registry handles idle =>
    exact .aside i bound (by simp [greeting]) registry handles idle
  | reject greeting refused registry handles ended =>
    exact .aside i bound (by simp [greeting]) registry handles (.inr ⟨_, ended⟩)
  | begin fresh =>
    have idle : ∀ h place w, (s.begin service now).session.phase ≠ .waiting h place w := by simp [Session.begin]
    have closed := openWait?_eq_none (s := s) (by simp [fresh])
    rw [turnEvents_begin fresh]
    refine .still (.refl _) ⟨bound.handles, fun waiting => absurd waiting (idle _ _ _)⟩ (fun _ => rfl) (fun _ => rfl)
      fun key => ?_
    rw [arrivalOn?_of_none key closed, arrivalOn?_of_none key (openWait?_eq_none idle)]
  | answer serving registry handles idle => exact .aside i bound (by simp [serving]) registry handles idle
  | issue serving got handles idle =>
    obtain ⟨more, entered, same⟩ := Registry.getOrCreate_some got
    exact .between i (by simp [serving]) more same (by rw [handles]; exact (bound.mono more).push entered) idle
  | command serving found which registry handles idle =>
    exact .command i bound (by simp [serving]) found which registry handles idle
  | @await _ body h asked key place timeout serving frame read found registry handles waiting =>
    have closed := openWait?_eq_none (s := s) (by simp [serving])
    have found' : m.session.binding? h = some (key, place) := by simpa [binding?, handles] using found
    rw [registry]
    refine .still (.refl _) ⟨by rw [handles]; exact bound.handles, fun again => ?_⟩ (fun _ => rfl) (fun other => ?_)
      fun other => ?_
    · rw [waiting] at again
      cases again
      exact ⟨key, found'⟩
    · exact eventsAt_of_closed i other closed
    · rw [arrivalOn?_of_none other closed, arrivalOn?_of_waiting waiting found', ite_self]
  | @putAside _ h place w waiting registry handles phase =>
    have same := openWait?_congr phase handles
    rw [registry]
    refine .still (.refl _) (bound.congr phase handles) (fun _ => rfl) (fun key => ?_) fun key => ?_
    · rw [eventsAt_input, show m.session.hasEnded = false by simp [hasEnded, phase, waiting]]
      rfl
    · simp only [arrivalOn?, same]
  | @leave _ h place w how waiting registry handles ended =>
    rw [registry]
    refine .leave bound waiting handles (.inr ⟨_, ended⟩) fun key => ?_
    rw [eventsAt_input, show m.session.hasEnded = true by simp [hasEnded, ended], if_pos rfl]
  | @pending _ h place w b w' waiting there polled registry handles phase =>
    obtain ⟨key, found⟩ := bound.waits waiting
    have found' : m.session.binding? h = some (key, place) := by simpa [binding?, handles] using found
    refine .poll bound waiting there registry ⟨?_, fun again => ?_⟩ fun key' found'' other => ?_
    · rw [handles, registry]
      exact (bound.mono (service.registry.put_extends place _)).handles
    · rw [phase] at again
      cases again
      exact ⟨key, found'⟩
    · rw [arrivalOn?_of_waiting phase (by simpa [binding?, handles] using found''), polled]
      rfl
  | @finish _ h place w b result waiting there polled registry handles idle =>
    refine .poll bound waiting there registry ?_ fun key _ other => ?_
    · refine .of_idle ?_ idle
      rw [handles, registry]
      exact (bound.mono (service.registry.put_extends place _)).handles
    · rw [arrivalOn?_of_none other idle.openWait?, polled]
      exact (ite_self _).symm
  | stray waiting missing => exact absurd missing (bound.ne_none waiting)

/-- A connection that is cut off gives up its open wait. -/
theorem Bound.abandon (bound : Bound r s) (i : Nat) :
    Acts r s i (s.dropEvents i) (s.abandon r).1 { s with phase := .ended .closed, backlog := [] } := by
  by_cases waits : ∃ h place w, s.phase = .waiting h place w
  · obtain ⟨h, place, w, waiting⟩ := waits
    rw [abandon_of_waiting r waiting]
    exact .leave bound waiting rfl (.inr ⟨_, rfl⟩) fun _ => rfl
  · have idle : ∀ h place w, s.phase ≠ .waiting h place w := fun h place w waiting => waits ⟨h, place, w, waiting⟩
    have closed := openWait?_eq_none idle
    have ended : Idle { s with phase := .ended .closed, backlog := [] } := .inr ⟨_, rfl⟩
    rw [abandon_of_idle r idle, dropEvents_of_none i closed]
    refine .still (.refl r) (.of_idle bound.handles ended) (fun _ => rfl) (fun _ => rfl) fun key => ?_
    rw [arrivalOn?_of_none key closed, arrivalOn?_of_none key ended.openWait?]

end Session
end Lockstep
