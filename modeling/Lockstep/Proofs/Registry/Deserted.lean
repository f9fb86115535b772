import Lockstep.Proofs.Barrier.Deserted
import Lockstep.Proofs.Registry.Lookup

namespace Lockstep.Registry

variable {r r' : Registry} {place : Place} {key : PartitionKey} {b b' : Barrier}

/-- What is left when all parties have gone away. -/
def deserted (r : Registry) : Registry :=
  { r with entries := r.entries.map fun e => (e.1, e.2.deserted) }

/-- What can be left when parties have gone away. -/
structure Deserting (r r' : Registry) : Prop where
  options : r'.options = r.options
  size : r'.entries.size = r.entries.size
  entry : ∀ {place : Place} {key : PartitionKey} {b : Barrier}, r.entries[place]? = some (key, b) →
    ∃ b', r'.entries[place]? = some (key, b') ∧ b.Deserting b'

/-- How many barriers are not broken. -/
def intact (r : Registry) : Nat :=
  r.entries.countP (!·.2.broken)

/-- How many barriers have parties that are blocked. -/
def occupied (r : Registry) : Nat :=
  r.entries.countP (0 < ·.2.status.waiting)

theorem Deserting.refl (r : Registry) : r.Deserting r :=
  ⟨rfl, rfl, fun entry => ⟨_, entry, .whole⟩⟩

private theorem entries_put (entry : r.entries[place]? = some (key, b)) (b' : Barrier) :
    (r.put place b').entries = r.entries.setIfInBounds place (key, b') := by
  simp [put, entry]

theorem Deserting.put (deserting : r.Deserting r') (entry : r.entries[place]? = some (key, b))
    (left : b.Deserting b') : r.Deserting (r'.put place b') := by
  obtain ⟨before, entry', _⟩ := deserting.entry entry
  refine ⟨(r'.options_put place b').trans deserting.options, ?_, fun {other k c} there => ?_⟩
  · simpa [entries_put entry'] using deserting.size
  · rw [entries_put entry', Array.getElem?_setIfInBounds]
    by_cases same : place = other
    · subst same
      rw [entry, Option.some.injEq, Prod.mk.injEq] at there
      obtain ⟨rfl, rfl⟩ := there
      rw [if_pos rfl, if_pos (Array.getElem?_eq_some_iff.mp entry').1]
      exact ⟨b', rfl, left⟩
    · rw [if_neg same]
      exact deserting.entry there

theorem intact_put (entry : r.entries[place]? = some (key, b)) (b' : Barrier) :
    (r.put place b').intact + (!b.broken).toNat = r.intact + (!b'.broken).toNat := by
  rw [intact, entries_put entry]
  exact countP_set_add entry (!·.2.broken) (key, b')

/-- When nobody is left, it does not matter in which order they went. -/
theorem Deserting.eq_deserted (deserting : r.Deserting r')
    (empty : ∀ {place : Place} {b : Barrier}, r'.barrier? place = some b → b.waiting = []) : r' = r.deserted := by
  have entries : r'.entries = r.entries.map fun e => (e.1, e.2.deserted) := by
    refine Array.ext_getElem? fun place => ?_
    rw [Array.getElem?_map]
    cases entry : r.entries[place]? with
    | none =>
      have outside := Array.getElem?_eq_none_iff.mp entry
      exact Array.getElem?_eq_none_iff.mpr (by rw [deserting.size]; exact outside)
    | some e =>
      obtain ⟨b', entry', left⟩ := deserting.entry entry
      have there : r'.barrier? place = some b' := by simp [barrier?, entry']
      rw [entry', left.eq_deserted (empty there)]
      rfl
  obtain ⟨options, entries'⟩ := r'
  obtain rfl := deserting.options
  obtain rfl := entries
  rfl

/-- What stands beside a key is its barrier. -/
theorem Distinct.barrierFor_of_mem (distinct : r.Distinct) {e : PartitionKey × Barrier} (member : e ∈ r.entries) :
    r.barrierFor e.1 = e.2 := by
  obtain ⟨place, entry⟩ := Array.getElem?_of_mem member
  have there := barrier?_of_find? (distinct entry)
  simpa [barrier?, entry] using there.symm

private theorem find?_deserted (r : Registry) (key : PartitionKey) : r.deserted.find? key = r.find? key := by
  simp [find?, deserted, Array.findIdx?_map, Function.comp_def]

theorem barrierFor_deserted (r : Registry) (key : PartitionKey) :
    r.deserted.barrierFor key = (r.barrierFor key).deserted := by
  unfold barrierFor
  rw [find?_deserted]
  cases found : r.find? key with
  | none => rfl
  | some place =>
    obtain ⟨b, entry⟩ := entry_of_find? found
    simp [barrier?, deserted, entry]

/-- Under the break policy the barriers that had parties are broken, each once, and under the other policy none. -/
theorem intact_deserted (same : ∀ e ∈ r.entries, e.2.options.policy = r.options.policy)
    (emptied : ∀ e ∈ r.entries, e.2.broken = true → e.2.waiting = []) :
    r.intact = r.deserted.intact + if r.options.policy = .breakGeneration then r.occupied else 0 := by
  have left : r.deserted.intact = r.entries.countP (!·.2.deserted.broken) := by
    simp [intact, deserted, Array.countP_map, Function.comp_def]
  have whole : ∀ e ∈ r.entries, e.2.waiting = [] → e.2.deserted = e.2 := fun e _ vacant => by
    rw [Barrier.deserted, if_pos vacant]
  rw [left]
  split
  · rename_i policy
    refine countP_add r.entries fun e member => ?_
    cases vacant : e.2.waiting with
    | nil => simp [whole e member vacant, Barrier.status, vacant]
    | cons t ts =>
      have unbroken : e.2.broken = false := by
        refine Bool.eq_false_iff.mpr fun broken => ?_
        rw [emptied e member broken] at vacant
        cases vacant
      simp [Barrier.deserted, vacant, same e member, policy, unbroken, Barrier.status]
  · rename_i policy
    have other : r.options.policy = .withdraw := by
      cases known : r.options.policy with
      | breakGeneration => exact absurd known policy
      | withdraw => rfl
    refine Array.countP_congr fun e member => ?_
    by_cases vacant : e.2.waiting = []
    · rw [whole e member vacant]
    · simp [Barrier.deserted, vacant, same e member, other]

end Lockstep.Registry
