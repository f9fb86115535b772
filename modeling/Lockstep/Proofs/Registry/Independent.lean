import Lockstep.Proofs.Barrier.Waits
import Lockstep.Proofs.Registry.Lookup
import Lockstep.Registry.Run
import Mathlib.Data.List.Basic

/-!
# Keys do not concern each other

Whoever uses the barrier of one key sees what a user of that barrier alone would
see: what happens at other keys may as well not happen. All that the barriers of
a registry share is the clock.

Here a barrier is named by its key, and a wait by its key and a name.
-/
namespace Lockstep.Registry

/-- What can be done with the barrier of a key. -/
inductive Use (Name : Type) where
  | getOrCreate
  | get
  /-- Makes a wait that has not arrived, if no other on the key has its name. -/
  | create (name : Name) (timeout : Option Nat)
  | poll (name : Name)
  | drop (name : Name)
  | abort
  | reset
  deriving DecidableEq, Repr

/-- An operation at a key, or the passing of time. -/
inductive KeyOperation (Name : Type) where
  | use (key : PartitionKey) (use : Use Name)
  | advance (milliseconds : Nat)
  deriving DecidableEq, Repr

/-- Time passes for all keys. -/
def KeyOperation.concerns {Name : Type} (key : PartitionKey) : KeyOperation Name → Bool
  | .use k _ => k = key
  | .advance _ => true

namespace Run

variable {Name : Type} [DecidableEq Name]

/-- Does something with the barrier of a key, if it has one. -/
def withBarrier (r : Run (PartitionKey × Name)) (key : PartitionKey) (op : Place → Operation (PartitionKey × Name)) :
    Run (PartitionKey × Name) :=
  match r.registry.find? key with
  | some place => r.perform (op place)
  | none => r

def use (r : Run (PartitionKey × Name)) (key : PartitionKey) : Use Name → Run (PartitionKey × Name)
  | .getOrCreate => r.perform (.getOrCreate key)
  | .get => r
  | .create name timeout => r.withBarrier key fun place => .create (key, name) place timeout
  | .poll name => r.perform (.poll (key, name))
  | .drop name => r.perform (.drop (key, name))
  | .abort => r.withBarrier key .abort
  | .reset => r.withBarrier key .reset

def performAt (r : Run (PartitionKey × Name)) : KeyOperation Name → Run (PartitionKey × Name)
  | .use key u => r.use key u
  | .advance ms => r.perform (.advance ms)

def runAt (r : Run (PartitionKey × Name)) (ops : List (KeyOperation Name)) : Run (PartitionKey × Name) :=
  ops.foldl performAt r

/-- A registry that nobody has asked for anything yet. -/
def start (options : Barrier.Options) : Run (PartitionKey × Name) :=
  { registry := { options } }

end Run

/-- What a use of a key says to its user. -/
inductive Answer where
  /-- The barrier of the key, if there is one. -/
  | barrier (status : Option Barrier.Status)
  /-- How the wait ended, if the poll finished it. -/
  | polled (result : Option Barrier.Result)
  | nothing
  deriving DecidableEq, Repr

def finished? : Barrier.Poll → Option Barrier.Result
  | .done result => some result
  | .pending _ => none

def statusAt? (r : Registry) (place : Option Place) : Option Barrier.Status :=
  (place.bind r.barrier?).map Barrier.status

namespace Run

variable {Name : Type} [DecidableEq Name]

def answer (r : Run (PartitionKey × Name)) (key : PartitionKey) : Use Name → Answer
  | .getOrCreate =>
    let (registry, place, _) := r.registry.getOrCreate key
    .barrier (registry.statusAt? place)
  | .get => .barrier (r.registry.statusAt? (r.registry.find? key))
  | .poll name => .polled do
    let p ← r.find? (key, name)
    let b ← r.registry.barrier? p.place
    finished? (b.poll r.now p.wait).2.1
  | _ => .nothing

def answerTo (r : Run (PartitionKey × Name)) : KeyOperation Name → Answer
  | .use key u => r.answer key u
  | .advance _ => .nothing

/-- What a user of the key sees of a run: the answer to each operation that concerns the key, and the status of its
    barrier then. -/
def seen (key : PartitionKey) (r : Run (PartitionKey × Name)) :
    List (KeyOperation Name) → List (Answer × Option Barrier.Status)
  | [] => []
  | op :: ops =>
    let next := r.performAt op
    let rest := next.seen key ops
    if op.concerns key then (r.answerTo op, next.registry.statusAt? (next.registry.find? key)) :: rest else rest

end Run

/-- What there is at one key: a barrier by itself with its waits, once it was asked for. Metrics are shared by all
    keys and left out. -/
structure View (Name : Type) where
  known : Bool
  run : Barrier.Run Name
  deriving DecidableEq, Repr

namespace View

variable {Name : Type} [DecidableEq Name]

/-- The barrier by itself is operated on. -/
def act (v : View Name) (op : Barrier.Operation Name) : View Name :=
  { v with run := { v.run.perform op with meter := {} } }

/-- What a use of the key comes to: a barrier that was not asked for cannot be used. -/
def use (v : View Name) : Use Name → View Name
  | .getOrCreate => { v with known := v.known || 0 < v.run.barrier.options.parties }
  | .get => v
  | .create name timeout => if v.known then v.act (.create name timeout) else v
  | .poll name => if v.known then v.act (.poll name) else v
  | .drop name => if v.known then v.act (.drop name) else v
  | .abort => if v.known then v.act .abort else v
  | .reset => if v.known then v.act .reset else v

/-- What an operation comes to at this key. -/
def performAt (key : PartitionKey) (v : View Name) : KeyOperation Name → View Name
  | .use k u => if k = key then v.use u else v
  | .advance ms => v.act (.advance ms)

def status? (v : View Name) : Option Barrier.Status :=
  if v.known then some v.run.barrier.status else none

def answer (v : View Name) : Use Name → Answer
  | .getOrCreate => .barrier (v.use .getOrCreate).status?
  | .get => .barrier v.status?
  | .poll name => .polled ((v.run.find? name).bind fun w => finished? (v.run.barrier.poll v.run.now w).2.1)
  | _ => .nothing

end View

namespace Run

variable {Name : Type} [DecidableEq Name]

def waitOn? (key : PartitionKey) (p : Pending (PartitionKey × Name)) : Option (Name × Barrier.Wait) :=
  if p.name.1 = key then some (p.name.2, p.wait) else none

def resultOn? (key : PartitionKey) (e : (PartitionKey × Name) × Barrier.Result) : Option (Name × Barrier.Result) :=
  if e.1.1 = key then some (e.1.2, e.2) else none

def view (r : Run (PartitionKey × Name)) (key : PartitionKey) : View Name where
  known := (r.registry.find? key).isSome
  run :=
    { barrier := r.registry.barrierFor key
      now := r.now
      waits := r.waits.filterMap (waitOn? key)
      results := r.results.filterMap (resultOn? key) }

section
variable {r : Run (PartitionKey × Name)} {k : PartitionKey} {place : Place} (key : PartitionKey) (name : Name)

private theorem find?_view (r : Run (PartitionKey × Name)) :
    (r.view key).run.find? name = (r.find? (key, name)).map (·.wait) := by
  simp only [view, Barrier.Run.find?, Run.find?]
  induction r.waits with
  | nil => rfl
  | cons p waits ih =>
    obtain ⟨⟨k, n⟩, place, w⟩ := p
    by_cases here : k = key
    · by_cases same : n = name
      · simp [waitOn?, here, same]
      · simpa [waitOn?, here, same, Prod.mk.injEq] using ih
    · simpa [waitOn?, here, Prod.mk.injEq] using ih

omit [DecidableEq Name] in
private theorem view_update (found : r.registry.find? k = some place) (f : Barrier → Barrier × Meter) :
    (r.update place f).view key =
      if k = key then { r.view key with run := { (r.view key).run with barrier := (f (r.view key).run.barrier).1 } }
      else r.view key := by
  have known : ((r.registry.update place f).1).find? key = r.registry.find? key := by
    rw [update_eq found, find?_put]
  have barrier : ((r.registry.update place f).1).barrierFor key =
      if key = k then (f (r.registry.barrierFor k)).1 else r.registry.barrierFor key := by
    rw [update_eq found, barrierFor_put found]
  by_cases same : k = key
  · subst same
    simp [view, update, known, barrier]
  · simp [view, update, known, barrier, same, Ne.symm same]

private theorem view_remove (r : Run (PartitionKey × Name)) :
    (r.remove (k, name)).view key =
      if k = key then { r.view key with run := (r.view key).run.remove name } else r.view key := by
  by_cases there : k = key
  · subst there
    have waits : (r.waits.filter (·.name ≠ (k, name))).filterMap (waitOn? k) =
        (r.waits.filterMap (waitOn? k)).filter (·.1 ≠ name) := by
      rw [List.filterMap_filter, List.filter_filterMap]
      refine List.filterMap_congr fun p _ => ?_
      by_cases here : p.name.1 = k <;> simp [waitOn?, here, Prod.ext_iff, Option.filter]
    simpa [view, remove, Barrier.Run.remove] using waits
  · have waits : (r.waits.filter (·.name ≠ (k, name))).filterMap (waitOn? key) = r.waits.filterMap (waitOn? key) := by
      rw [List.filterMap_filter]
      refine List.filterMap_congr fun p _ => ?_
      by_cases here : p.name.1 = key <;> simp [waitOn?, here, Prod.ext_iff, Ne.symm there]
    simpa [view, remove, there] using waits

private theorem view_put (r : Run (PartitionKey × Name)) (w : Barrier.Wait) :
    (r.put (k, name) w).view key =
      if k = key then { r.view key with run := (r.view key).run.put name w } else r.view key := by
  by_cases there : k = key
  · subst there
    have waits : (r.waits.map fun p => if p.name = (k, name) then { p with wait := w } else p).filterMap (waitOn? k) =
        (r.waits.filterMap (waitOn? k)).map fun e => if e.1 = name then (name, w) else e := by
      rw [List.filterMap_map, List.map_filterMap]
      refine List.filterMap_congr fun p _ => ?_
      by_cases here : p.name.1 = k
      · by_cases same : p.name.2 = name <;> simp [waitOn?, here, same, Prod.ext_iff]
      · simp [waitOn?, here, Prod.ext_iff]
    simpa [view, put, Barrier.Run.put] using waits
  · have waits : (r.waits.map fun p => if p.name = (k, name) then { p with wait := w } else p).filterMap (waitOn? key) =
        r.waits.filterMap (waitOn? key) := by
      rw [List.filterMap_map]
      refine List.filterMap_congr fun p _ => ?_
      by_cases here : p.name = (k, name)
      · simp [waitOn?, here, there]
      · simp [here]
    simpa [view, put, there] using waits

omit [DecidableEq Name] in
private theorem view_join (r : Run (PartitionKey × Name)) (place : Place) (w : Barrier.Wait) :
    ({ r with waits := r.waits ++ [⟨(k, name), place, w⟩] } : Run (PartitionKey × Name)).view key =
      if k = key then
        { r.view key with run := { (r.view key).run with waits := (r.view key).run.waits ++ [(name, w)] } }
      else r.view key := by
  by_cases there : k = key <;> simp [view, waitOn?, there]

omit [DecidableEq Name] in
private theorem view_conclude (r : Run (PartitionKey × Name)) (result : Barrier.Result) :
    ({ r with results := r.results ++ [((k, name), result)] } : Run (PartitionKey × Name)).view key =
      if k = key then
        { r.view key with run := { (r.view key).run with results := (r.view key).run.results ++ [(name, result)] } }
      else r.view key := by
  by_cases there : k = key <;> simp [view, resultOn?, there]

end

/-- Every wait is at the barrier of its key. -/
def Placed (r : Run (PartitionKey × Name)) : Prop :=
  ∀ p ∈ r.waits, r.registry.find? p.name.1 = some p.place

section
variable {r : Run (PartitionKey × Name)} {k : PartitionKey} {name : Name} {p : Pending (PartitionKey × Name)}
  {place : Place} (key : PartitionKey)

/-- A wait that is found is at the barrier of its key. -/
private theorem Placed.found (placed : r.Placed) (found : r.find? (k, name) = some p) :
    p.name = (k, name) ∧ r.registry.find? k = some p.place := by
  have same : p.name = (k, name) := by simpa using List.find?_some found
  have located := placed p (List.mem_of_find?_eq_some found)
  rw [same] at located
  exact ⟨same, located⟩

omit [DecidableEq Name] in
private theorem known_view (located : r.registry.find? k = some place) : (r.view k).known = true := by
  simp [view, located]

private theorem view_drop (placed : r.Placed) :
    (r.drop (k, name)).view key = if k = key then (r.view key).use (.drop name) else r.view key := by
  unfold drop
  cases found : r.find? (k, name) with
  | none =>
    by_cases same : k = key
    · subst same
      have absent : (r.view k).run.find? name = none := by rw [find?_view, found, Option.map_none]
      simp only [View.use, View.act, Barrier.Run.perform, Barrier.Run.drop_absent absent, if_true]
      exact (ite_self _).symm
    · rw [if_neg same]
  | some p =>
    obtain ⟨_, located⟩ := placed.found found
    simp only
    rw [view_update key (r := r.remove (k, name)) located, view_remove]
    by_cases same : k = key
    · subst same
      have present : (r.view k).run.find? name = some p.wait := by rw [find?_view, found, Option.map_some]
      simp only [View.use, View.act, Barrier.Run.perform, Barrier.Run.drop_found present, known_view located, if_true]
      rfl
    · simp only [same, if_false]

private theorem view_poll (placed : r.Placed) :
    (r.poll (k, name)).view key = if k = key then (r.view key).use (.poll name) else r.view key := by
  unfold poll
  cases found : r.find? (k, name) with
  | none =>
    by_cases same : k = key
    · subst same
      have absent : (r.view k).run.find? name = none := by rw [find?_view, found, Option.map_none]
      simp only [View.use, View.act, Barrier.Run.perform, Barrier.Run.poll_absent absent, if_true]
      exact (ite_self _).symm
    · rw [if_neg same]
  | some p =>
    obtain ⟨_, located⟩ := placed.found found
    have present : (r.view k).run.find? name = some p.wait := by rw [find?_view, found, Option.map_some]
    have polled := view_update key (r := r) located fun b => ((b.poll r.now p.wait).1, (b.poll r.now p.wait).2.2)
    simp only [update, Registry.update, barrier?_of_find? located] at polled
    simp only [barrier?_of_find? located]
    rcases done : (r.registry.barrierFor k).poll r.now p.wait with ⟨b, poll, meter⟩
    rw [done] at polled
    cases poll with
    | pending w =>
      simp only
      rw [view_put, polled]
      by_cases same : k = key
      · subst same
        have pending : ((r.view k).run.barrier.poll (r.view k).run.now p.wait).2.1 = .pending w := by
          simp [view, done]
        simp only [View.use, View.act, Barrier.Run.perform, Barrier.Run.poll_pending present pending,
          known_view located, if_true]
        rfl
      · simp only [same, if_false]
    | done result =>
      let r' := { r with registry := r.registry.put p.place b, meter := r.meter + meter }
      refine (view_conclude key name (r'.remove (k, name)) result).trans ?_
      rw [view_remove, polled]
      by_cases same : k = key
      · subst same
        have finished : ((r.view k).run.barrier.poll (r.view k).run.now p.wait).2.1 = .done result := by
          simp [view, done]
        simp only [View.use, View.act, Barrier.Run.perform, Barrier.Run.poll_done present finished,
          known_view located, if_true]
        rfl
      · simp only [same, if_false]

omit [DecidableEq Name] in
/-- A barrier is made, if need be, for the key that asks and for no other. -/
private theorem view_create (new : r.registry.find? k = none) (meter : Meter) :
    ({ r with
      registry := { r.registry with entries := r.registry.entries.push (k, { options := r.registry.options }) }
      meter } : Run (PartitionKey × Name)).view key =
      if k = key then { r.view key with known := true } else r.view key := by
  by_cases same : k = key
  · subst same
    simp [view, find?_push, new, barrierFor_push]
  · simp [view, find?_push, same, barrierFor_push]

private theorem view_getOrCreate (r : Run (PartitionKey × Name)) (k : PartitionKey) :
    (r.perform (.getOrCreate k)).view key = if k = key then (r.view key).use .getOrCreate else r.view key := by
  rcases r.registry.getOrCreate_cases k with ⟨place, found, got⟩ | ⟨new, positive, got⟩ | ⟨new, none, got⟩
  · have same : (r.perform (.getOrCreate k)).view key = r.view key := by simp [perform, got, view]
    rw [same]
    split
    · rename_i here
      subst here
      cases seen : r.view k with
      | mk known run =>
        have : known = true := by simpa [seen] using known_view found
        simp [View.use, this]
    · rfl
  · simp only [perform, got]
    rw [view_create key new]
    by_cases same : k = key
    · subst same
      have options : (r.view k).run.barrier.options = r.registry.options := by simp [view, barrierFor, new]
      simp [View.use, options, positive]
    · simp only [same, if_false]
  · have same : (r.perform (.getOrCreate k)).view key = r.view key := by simp [perform, got, view]
    rw [same]
    split
    · rename_i here
      subst here
      have options : (r.view k).run.barrier.options = r.registry.options := by simp [view, barrierFor, new]
      simp [View.use, options, none]
    · rfl

private theorem view_withBarrier {op : Place → Operation (PartitionKey × Name)} {u : Use Name}
    {op' : Barrier.Operation Name} (use : ∀ v : View Name, v.use u = if v.known then v.act op' else v)
    (does : ∀ place, r.registry.find? k = some place →
      (r.perform (op place)).view key = if k = key then (r.view key).act op' else r.view key) :
    (r.withBarrier k op).view key = if k = key then (r.view key).use u else r.view key := by
  unfold withBarrier
  cases found : r.registry.find? k with
  | none =>
    by_cases same : k = key
    · subst same
      have unknown : (r.view k).known = false := by simp [view, found]
      simp [use, unknown]
    · rw [if_neg same]
  | some place =>
    simp only
    rw [does place found]
    by_cases same : k = key
    · subst same
      simp [use, known_view found]
    · simp only [same, if_false]

/-- What is done with the barrier of one key is seen there, as if there were no other, and nowhere else. -/
private theorem view_use (placed : r.Placed) (u : Use Name) :
    (r.use k u).view key = if k = key then (r.view key).use u else r.view key := by
  cases u with
  | getOrCreate => exact view_getOrCreate key r k
  | get => exact (ite_self _).symm
  | create name timeout =>
    refine view_withBarrier key (fun _ => rfl) fun place found => ?_
    show (r.create (k, name) place timeout).view key = _
    unfold create
    by_cases taken : (r.find? (k, name)).isSome = true
    · rw [if_pos taken]
      by_cases same : k = key
      · subst same
        have present : ((r.view k).run.find? name).isSome = true := by simpa [find?_view] using taken
        simp only [View.act, Barrier.Run.perform, Barrier.Run.create, present, if_true]
        rfl
      · rw [if_neg same]
    · rw [if_neg taken, view_join]
      by_cases same : k = key
      · subst same
        have absent : ¬ ((r.view k).run.find? name).isSome = true := by simpa [find?_view] using taken
        simp only [View.act, Barrier.Run.perform, Barrier.Run.create, absent, if_true]
        rfl
      · simp only [same, if_false]
  | poll name => exact view_poll key placed
  | drop name => exact view_drop key placed
  | abort =>
    refine view_withBarrier key (fun _ => rfl) fun place found => ?_
    exact view_update key found Barrier.abort
  | reset =>
    refine view_withBarrier key (fun _ => rfl) fun place found => ?_
    exact view_update key found Barrier.reset

end

section
variable {r r' : Run (PartitionKey × Name)}

omit [DecidableEq Name] in
private theorem placed_start (options : Barrier.Options) : (start options : Run (PartitionKey × Name)).Placed :=
  fun _ none => nomatch none

omit [DecidableEq Name] in
/-- Keys keep their places, so waits that were there before stay where they belong. -/
private theorem Placed.mono (placed : r.Placed)
    (kept : ∀ {key place}, r.registry.find? key = some place → r'.registry.find? key = some place)
    (earlier : ∀ p ∈ r'.waits, ∃ q ∈ r.waits, q.name = p.name ∧ q.place = p.place) : r'.Placed := by
  intro p member
  obtain ⟨q, before, name, place⟩ := earlier p member
  rw [← name, ← place]
  exact kept (placed q before)

omit [DecidableEq Name] in
private theorem find?_update (place : Place) (f : Barrier → Barrier × Meter) (key : PartitionKey) :
    (r.registry.update place f).1.find? key = r.registry.find? key := by
  unfold Registry.update
  split
  · exact find?_put ..
  · rfl

omit [DecidableEq Name] in
private theorem placed_update (placed : r.Placed) (place : Place) (f : Barrier → Barrier × Meter) :
    (r.update place f).Placed :=
  placed.mono (fun found => (find?_update place f _).trans found) fun p member => ⟨p, member, rfl, rfl⟩

private theorem placed_remove (placed : r.Placed) (name : PartitionKey × Name) : (r.remove name).Placed :=
  placed.mono id fun p member => ⟨p, List.mem_of_mem_filter member, rfl, rfl⟩

private theorem placed_put (placed : r.Placed) (name : PartitionKey × Name) (w : Barrier.Wait) :
    (r.put name w).Placed := by
  refine placed.mono id fun p member => ?_
  obtain ⟨q, before, rfl⟩ := List.mem_map.mp member
  refine ⟨q, before, ?_, ?_⟩ <;> split <;> rfl

private theorem placed_poll (placed : r.Placed) (name : PartitionKey × Name) : (r.poll name).Placed := by
  unfold poll
  split
  · exact placed
  · rename_i p _
    split
    · exact placed
    · rename_i b _
      have kept : ({ r with registry := r.registry.put p.place (b.poll r.now p.wait).1,
                            meter := r.meter + (b.poll r.now p.wait).2.2 } : Run (PartitionKey × Name)).Placed :=
        placed.mono (fun found => (find?_put ..).trans found) fun p member => ⟨p, member, rfl, rfl⟩
      simp only
      split
      · exact placed_put kept name _
      · exact placed_remove kept name

private theorem placed_drop (placed : r.Placed) (name : PartitionKey × Name) : (r.drop name).Placed := by
  unfold drop
  split
  · exact placed
  · rename_i p _
    exact placed_update (r := r.remove name) (placed_remove placed name) p.place (·.drop p.wait)

private theorem placed_withBarrier {op : Place → Operation (PartitionKey × Name)} {key : PartitionKey}
    (placed : r.Placed) (does : ∀ place, r.registry.find? key = some place → (r.perform (op place)).Placed) :
    (r.withBarrier key op).Placed := by
  unfold withBarrier
  split
  · rename_i place found
    exact does place found
  · exact placed

private theorem placed_use (placed : r.Placed) (key : PartitionKey) (u : Use Name) : (r.use key u).Placed := by
  cases u with
  | getOrCreate =>
    refine placed.mono (fun found => ?_) fun p member => ⟨p, member, rfl, rfl⟩
    rcases r.registry.getOrCreate_cases key with ⟨_, _, got⟩ | ⟨new, positive, got⟩ | ⟨_, _, got⟩
    · simpa [use, perform, got] using found
    · simpa [use, perform, got] using (push_extends new positive _).kept found
    · simpa [use, perform, got] using found
  | get => exact placed
  | create name timeout =>
    refine placed_withBarrier placed fun place found => ?_
    show (r.create (key, name) place timeout).Placed
    unfold create
    split
    · exact placed
    · intro p member
      rcases List.mem_append.mp member with earlier | new
      · exact placed p earlier
      · rw [List.mem_singleton.mp new]
        exact found
  | poll name => exact placed_poll placed _
  | drop name => exact placed_drop placed _
  | abort => exact placed_withBarrier placed fun place _ => placed_update placed place _
  | reset => exact placed_withBarrier placed fun place _ => placed_update placed place _

private theorem placed_performAt (placed : r.Placed) (op : KeyOperation Name) : (r.performAt op).Placed := by
  cases op with
  | use key u => exact placed_use placed key u
  | advance ms => exact placed.mono id fun p member => ⟨p, member, rfl, rfl⟩

theorem placed_runAt (placed : r.Placed) (ops : List (KeyOperation Name)) : (r.runAt ops).Placed := by
  induction ops generalizing r with
  | nil => exact placed
  | cons op ops ih => exact ih (placed_performAt placed op)

end

section
variable {r r' : Run (PartitionKey × Name)} (key : PartitionKey)

/-- What one operation comes to at a key: nothing, if it does not concern it. -/
private theorem view_performAt (placed : r.Placed) (op : KeyOperation Name) :
    (r.performAt op).view key = (r.view key).performAt key op := by
  cases op with
  | use k u => exact view_use key placed u
  | advance ms => rfl

private theorem performAt_other {op : KeyOperation Name} (other : op.concerns key = false) (v : View Name) :
    v.performAt key op = v := by
  cases op with
  | use k u =>
    have apart : k ≠ key := by simpa [KeyOperation.concerns] using other
    exact if_neg apart
  | advance ms => cases other

omit [DecidableEq Name] in
private theorem statusAt?_view : r.registry.statusAt? (r.registry.find? key) = (r.view key).status? := by
  unfold statusAt? View.status?
  cases found : r.registry.find? key with
  | none => simp [view, found]
  | some place => simp [view, found, barrier?_of_find? found]

private theorem answer_view (placed : r.Placed) (u : Use Name) : r.answer key u = (r.view key).answer u := by
  cases u with
  | getOrCreate =>
    have after := view_getOrCreate key r key
    rw [if_pos rfl] at after
    have asked : r.answer key (.getOrCreate : Use Name) =
        .barrier (((r.registry.getOrCreate key).1).statusAt? (((r.registry.getOrCreate key).1).find? key)) := by
      rcases r.registry.getOrCreate_cases key with ⟨place, found, got⟩ | ⟨new, _, got⟩ | ⟨new, _, got⟩
      · simp [answer, got, found]
      · simp [answer, got, find?_push, new, size]
      · simp [answer, got, new]
    rw [asked, View.answer, ← after]
    exact congrArg Answer.barrier (statusAt?_view key (r := r.perform (.getOrCreate key)))
  | get => exact congrArg Answer.barrier (statusAt?_view key)
  | poll name =>
    simp only [answer, View.answer, find?_view]
    cases found : r.find? (key, name) with
    | none => rfl
    | some p =>
      obtain ⟨_, located⟩ := placed.found found
      simp [barrier?_of_find? located, view]
  | create | drop | abort | reset => rfl

private theorem answerTo_view {op : KeyOperation Name} (placed : r.Placed) (placed' : r'.Placed)
    (same : r.view key = r'.view key) (concerned : op.concerns key = true) : r.answerTo op = r'.answerTo op := by
  cases op with
  | use k u =>
    obtain rfl : k = key := by simpa [KeyOperation.concerns] using concerned
    simp only [answerTo, answer_view k placed, answer_view k placed', same]
  | advance ms => rfl

/-- Two runs that look the same at a key keep doing so when the second leaves out what does not concern the key. -/
theorem view_runAt (placed : r.Placed) (placed' : r'.Placed) (same : r.view key = r'.view key)
    (ops : List (KeyOperation Name)) :
    (r.runAt ops).view key = (r'.runAt (ops.filter (·.concerns key))).view key := by
  induction ops generalizing r r' with
  | nil => exact same
  | cons op ops ih =>
    have step := view_performAt key placed op
    by_cases concerned : op.concerns key = true
    · rw [List.filter_cons_of_pos (by exact concerned)]
      refine ih (placed_performAt placed op) (placed_performAt placed' op) ?_
      rw [step, same, view_performAt key placed' op]
    · rw [List.filter_cons_of_neg (by exact concerned)]
      refine ih (placed_performAt placed op) placed' ?_
      rw [step, performAt_other key (by simpa using concerned), same]

theorem seen_runAt (placed : r.Placed) (placed' : r'.Placed) (same : r.view key = r'.view key)
    (ops : List (KeyOperation Name)) : r.seen key ops = r'.seen key (ops.filter (·.concerns key)) := by
  induction ops generalizing r r' with
  | nil => rfl
  | cons op ops ih =>
    have step := view_performAt key placed op
    by_cases concerned : op.concerns key = true
    · have alike : (r.performAt op).view key = (r'.performAt op).view key := by
        rw [step, same, view_performAt key placed' op]
      have rest := ih (placed_performAt placed op) (placed_performAt placed' op) alike
      rw [List.filter_cons_of_pos (by exact concerned)]
      simp only [seen, concerned, if_true, statusAt?_view, alike, answerTo_view key placed placed' same concerned, rest]
    · have alike : (r.performAt op).view key = r'.view key := by
        rw [step, performAt_other key (by simpa using concerned), same]
      have rest := ih (placed_performAt placed op) placed' alike
      rw [List.filter_cons_of_neg (by exact concerned)]
      simp only [seen, concerned, rest]
      rfl

end

/-- Whatever has been done before, the user of a key gets the same answers and sees the same status at every step, and
    the barrier of the key is left with the same waits and results, if nothing is done at other keys. -/
theorem other_keys_unseen (options : Barrier.Options) (before ops : List (KeyOperation Name)) (key : PartitionKey) :
    let r := (start options).runAt before
    r.seen key ops = r.seen key (ops.filter (·.concerns key)) ∧
      ∀ n, (r.runAt (ops.take n)).view key = (r.runAt ((ops.take n).filter (·.concerns key))).view key := by
  have placed : ((start options).runAt before).Placed := placed_runAt (placed_start options) before
  refine ⟨?_, ?_⟩
  · exact seen_runAt key placed placed rfl ops
  · intro n
    exact view_runAt key placed placed rfl (ops.take n)

end Run
end Lockstep.Registry
