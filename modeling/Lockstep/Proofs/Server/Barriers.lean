import Lockstep.Proofs.Barrier.AllOrNothing
import Lockstep.Proofs.Server.Step

namespace Lockstep.Server

/-- The waits on a key that have arrived and are not finished, by connection. -/
def blockedOn (s : Server) (key : PartitionKey) : Barrier.Blocked Nat :=
  fun i => s.lines[i]?.bind fun line => line.session.arrivalOn? key

/-- The sessions of all connections lead to the barriers of their keys. -/
def Linked (s : Server) : Prop :=
  ∀ {i : Nat} {line : Line}, s.lines[i]? = some line → line.session.Bound s.service.registry

variable {s s' : Server} {es : List Event}

theorem getElem?_set {i : Nat} {line line' : Line} (found : s.lines[i]? = some line) (j : Nat) :
    (s.lines.setIfInBounds i line')[j]? = if j = i then some line' else s.lines[j]? := by
  obtain ⟨inside, _⟩ := Array.getElem?_eq_some_iff.mp found
  rw [Array.getElem?_setIfInBounds]
  by_cases same : i = j
  · subst same
    simp [inside]
  · rw [if_neg same, if_neg (Ne.symm same)]

theorem getElem?_modifySession (s : Server) (i : Nat) (f : Session → Session) (j : Nat) :
    (s.modifySession i f).lines[j]? =
      if j = i then s.lines[i]?.map fun l => { l with session := f l.session } else s.lines[j]? := by
  simp only [modifySession, Array.getElem?_modify]
  by_cases same : j = i
  · simp [same]
  · rw [if_neg same, if_neg (Ne.symm same)]

theorem blockedOn_of_line {i : Nat} {line : Line} (found : s.lines[i]? = some line) (key : PartitionKey) :
    s.blockedOn key i = line.session.arrivalOn? key := by
  simp [blockedOn, found]

/-- What a step comes to at the barriers. -/
structure Turned (s : Server) (es : List Event) (s' : Server) : Prop where
  more : s.service.registry.Extends s'.service.registry
  linked : s'.Linked
  moves : ∀ key, Barrier.Sound (s.service.registry.barrierFor key) (s.blockedOn key) →
    Barrier.Moves (s.service.registry.barrierFor key) (s.blockedOn key) (eventsAt key es)
      (s'.service.registry.barrierFor key) (s'.blockedOn key)

/-- When one connection acts, the others stay as they are. -/
private theorem Turned.of_acts {i : Nat} {line line' : Line} (linked : s.Linked) (found : s.lines[i]? = some line)
    (lines : s'.lines = s.lines.setIfInBounds i line')
    (acts : line.session.Acts s.service.registry i es s'.service.registry line'.session) : Turned s es s' where
  more := acts.more
  linked := by
    intro j other there
    rw [lines, getElem?_set found] at there
    split at there
    · cases there
      exact acts.bound
    · exact (linked there).mono acts.more
  moves := by
    intro key sound
    have blocked : s'.blockedOn key = Function.update (s.blockedOn key) i (line'.session.arrivalOn? key) := by
      funext j
      simp only [blockedOn, lines, getElem?_set found, Function.update_apply]
      split <;> rfl
    rw [blocked]
    exact acts.moves key _ (blockedOn_of_line found key) sound

theorem Step.turned (step : Step s es s') (linked : s.Linked) : Turned s es s' := by
  cases step with
  | quiet service size lines =>
    refine ⟨by rw [service]; exact .refl _, ?_, ?_⟩
    · intro i line' found
      rw [service]
      rcases lines found with ⟨line, here, phase, handles, _⟩ | ⟨_, rfl⟩
      · exact (linked here).congr phase handles
      · exact .new _
    · intro key _
      have blocked : s'.blockedOn key = s.blockedOn key := by
        funext i
        cases found : s'.lines[i]? with
        | none =>
          have outside := Array.getElem?_eq_none_iff.mp found
          simp [blockedOn, found, Array.getElem?_eq_none (Nat.le_trans size outside)]
        | some line' =>
          rw [blockedOn_of_line found]
          rcases lines found with ⟨line, here, phase, handles, _⟩ | ⟨here, rfl⟩
          · rw [blockedOn_of_line here]
            simp only [Session.arrivalOn?, Session.openWait?_congr phase handles]
          · simp [blockedOn, here, Session.arrivalOn?, Session.openWait?, Session.new]
      rw [service, blocked]
      exact .none _ _
  | @turn _ i t line m found moved service lines =>
    refine .of_acts linked found lines ?_
    rw [service]
    exact (Session.turn_did moved).acts (linked found) i
  | @cut _ i line found ended service lines =>
    refine .of_acts linked found lines ?_
    rw [service]
    exact (linked found).abandon i

private theorem Turned.append {s'' : Server} {es' : List Event} (first : Turned s es s') (second : Turned s' es' s'') :
    Turned s (es ++ es') s'' where
  more := first.more.trans second.more
  linked := second.linked
  moves := fun key sound => by
    have moves := first.moves key sound
    rw [eventsAt_append]
    exact moves.append (second.moves key (moves.sound sound))

theorem run_turned (linked : s.Linked) (ops : List Operation) : Turned s (s.history ops) (s.run ops) := by
  induction ops generalizing s with
  | nil => exact ⟨.refl _, linked, fun _ _ => .none _ _⟩
  | cons op ops ih =>
    have first := (perform_step s op).turned linked
    exact first.append (ih first.linked)

section
variable (config : ServerConfig) (secret : Secret) (address : Address) (complaint : Bytes → String)

theorem start_turned (ops : List Operation) : Turned (start config secret address complaint)
    ((start config secret address complaint).history ops) ((start config secret address complaint).run ops) :=
  run_turned (fun found => by simp [start] at found) ops

/-- Every barrier is that of a key. -/
theorem find?_of_barrier? {ops : List Operation} {place : Registry.Place} {b : Barrier}
    (there : ((start config secret address complaint).run ops).service.registry.barrier? place = some b) :
    ∃ key, ((start config secret address complaint).run ops).service.registry.find? key = some place := by
  have distinct : ((start config secret address complaint).run ops).service.registry.Distinct :=
    (start_turned config secret address complaint ops).more.distinct (by simp [start, Service.new, Registry.Distinct])
  obtain ⟨⟨key, b'⟩, entry, _⟩ := Option.map_eq_some_iff.mp there
  exact ⟨key, distinct entry⟩

/-- A key has a barrier only if barriers have parties. -/
theorem positive_of_find? {ops : List Operation} {key : PartitionKey} {place : Registry.Place}
    (found : ((start config secret address complaint).run ops).service.registry.find? key = some place) :
    0 < config.parties := by
  rcases (start_turned config secret address complaint ops).more.entered found with before | positive
  · simp [start, Service.new, Registry.find?] at before
  · exact positive

/-- A run of a server tells a story of each generation at each key. -/
theorem story_of_run (positive : 0 < config.parties) (ops : List Operation) (key : PartitionKey) :
    let s := (start config secret address complaint).run ops
    let h := (start config secret address complaint).history ops
    Barrier.Sound (s.service.registry.barrierFor key) (s.blockedOn key) ∧
      (s.service.registry.barrierFor key).options = config.barrierOptions ∧
      ∀ g, Barrier.Story (s.service.registry.barrierFor key) (s.blockedOn key) (eventsAt key h) g := by
  intro s h
  have fresh : (start config secret address complaint).service.registry.barrierFor key =
      { options := config.barrierOptions } := by
    simp [start, Service.new, Registry.barrierFor, Registry.find?]
  have nobody : (start config secret address complaint).blockedOn key = fun _ => none := by
    funext i
    simp [start, blockedOn]
  have moves := (start_turned config secret address complaint ops).moves key
  rw [fresh, nobody] at moves
  have sound : Barrier.Sound { options := config.barrierOptions } (fun _ : Nat => none) := .fresh positive
  exact ⟨(moves sound).sound sound, (moves sound).options,
    fun g => (Barrier.Story.fresh config.barrierOptions g).moves sound (moves sound)⟩

end
end Lockstep.Server
