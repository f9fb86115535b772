import Lockstep.Proofs.Barrier.Sound
import Lockstep.Registry

namespace Lockstep.Registry

/-- The barrier of a key; one that was never asked for is as if it were new. -/
def barrierFor (r : Registry) (key : PartitionKey) : Barrier :=
  ((r.find? key).bind r.barrier?).getD { options := r.options }

/-- No key is entered twice. -/
def Distinct (r : Registry) : Prop :=
  ∀ {place key b}, r.entries[place]? = some (key, b) → r.find? key = some place

/-- Every key that had a barrier still has it in the same place, and a key is entered only once and only where
    barriers can be made. -/
structure Extends (r r' : Registry) : Prop where
  options : r'.options = r.options
  kept : ∀ {key place}, r.find? key = some place → r'.find? key = some place
  entered : ∀ {key place}, r'.find? key = some place → r.find? key = some place ∨ 0 < r.options.parties
  distinct : r.Distinct → r'.Distinct

theorem Extends.refl (r : Registry) : r.Extends r where
  options := rfl
  kept := id
  entered := .inl
  distinct := id

theorem Extends.trans {r r' r'' : Registry} (first : r.Extends r') (second : r'.Extends r'') : r.Extends r'' where
  options := second.options.trans first.options
  kept := fun found => second.kept (first.kept found)
  entered := fun found => by
    rcases second.entered found with earlier | positive
    · exact first.entered earlier
    · exact .inr (by rw [← first.options]; exact positive)
  distinct := fun distinct => second.distinct (first.distinct distinct)

/-- In the place of a key there is a barrier of that key. -/
theorem entry_of_find? {r : Registry} {key : PartitionKey} {place : Place} (found : r.find? key = some place) :
    ∃ b, r.entries[place]? = some (key, b) := by
  obtain ⟨inside, here, _⟩ := Array.findIdx?_eq_some_iff_getElem.mp found
  have same : r.entries[place].1 = key := by simpa using here
  exact ⟨r.entries[place].2, by rw [Array.getElem?_eq_getElem inside, ← same]⟩

theorem find?_inj {r : Registry} {key key' : PartitionKey} {place : Place} (found : r.find? key = some place)
    (found' : r.find? key' = some place) : key = key' := by
  obtain ⟨b, entry⟩ := entry_of_find? found
  obtain ⟨b', entry'⟩ := entry_of_find? found'
  rw [entry, Option.some.injEq] at entry'
  exact congrArg Prod.fst entry'

theorem barrier?_of_find? {r : Registry} {key : PartitionKey} {place : Place} (found : r.find? key = some place) :
    r.barrier? place = some (r.barrierFor key) := by
  obtain ⟨b, entry⟩ := entry_of_find? found
  simp [barrierFor, found, barrier?, entry]

theorem options_put (r : Registry) (place : Place) (b : Barrier) : (r.put place b).options = r.options := by
  unfold put
  split <;> rfl

theorem put_self {r : Registry} {place : Place} {b : Barrier} (there : r.barrier? place = some b) :
    r.put place b = r := by
  obtain ⟨⟨key, b'⟩, entry, rfl⟩ := Option.map_eq_some_iff.mp there
  have same : r.entries.setIfInBounds place (key, b') = r.entries := by
    refine Array.ext_getElem? fun i => ?_
    rw [Array.getElem?_setIfInBounds]
    split
    · rename_i here
      subst here
      split
      · exact entry.symm
      · rename_i outside
        exact absurd (Array.getElem?_eq_some_iff.mp entry).1 outside
    · rfl
  unfold put
  rw [entry]
  simp only [same]

theorem size_put (r : Registry) (place : Place) (b : Barrier) : (r.put place b).size = r.size := by
  unfold put
  split
  · simp [size]
  · rfl

theorem lt_size_iff {r : Registry} {place : Place} : place < r.size ↔ ∃ b, r.barrier? place = some b := by
  constructor
  · intro inside
    exact ⟨r.entries[place].2, by rw [barrier?, Array.getElem?_eq_getElem inside]; rfl⟩
  · rintro ⟨b, there⟩
    obtain ⟨_, entry, _⟩ := Option.map_eq_some_iff.mp there
    exact (Array.getElem?_eq_some_iff.mp entry).1

theorem barrier?_put {r : Registry} {place : Place} {b : Barrier} (there : r.barrier? place = some b) (b' : Barrier)
    (other : Place) : (r.put place b').barrier? other = if other = place then some b' else r.barrier? other := by
  obtain ⟨⟨key, _⟩, entry, rfl⟩ := Option.map_eq_some_iff.mp there
  have inside := (Array.getElem?_eq_some_iff.mp entry).1
  by_cases here : other = place
  · subst here
    simp [barrier?, put, inside]
  · simp [barrier?, put, entry, here, Ne.symm here]

theorem find?_put (r : Registry) (place : Place) (b : Barrier) (key : PartitionKey) :
    (r.put place b).find? key = r.find? key := by
  have keys : (r.put place b).entries.map (·.1) = r.entries.map (·.1) := by
    unfold put
    split
    · rename_i k b' entry
      obtain ⟨inside, here⟩ := Array.getElem?_eq_some_iff.mp entry
      refine Array.ext_getElem? fun i => ?_
      by_cases same : place = i
      · subst same
        simp [inside, here]
      · simp [same]
    · rfl
  have lookup : ∀ entries : Array (PartitionKey × Barrier),
      entries.findIdx? (·.1 = key) = (entries.map (·.1)).findIdx? (· = key) := by
    intro entries
    rw [Array.findIdx?_map]
    rfl
  rw [find?, lookup, keys, ← lookup]
  rfl

theorem put_extends (r : Registry) (place : Place) (b : Barrier) : r.Extends (r.put place b) where
  options := r.options_put place b
  kept := fun found => by rw [find?_put]; exact found
  entered := fun found => .inl (by rw [find?_put] at found; exact found)
  distinct := fun distinct {p key b'} entry => by
    obtain ⟨old, before⟩ : ∃ old, r.entries[p]? = some (key, old) := by
      unfold put at entry
      split at entry
      · rename_i k b'' here
        by_cases same : place = p
        · subst same
          obtain ⟨inside, _⟩ := Array.getElem?_eq_some_iff.mp here
          simp only [Array.getElem?_setIfInBounds_self_of_lt inside, Option.some.injEq, Prod.mk.injEq] at entry
          exact ⟨b'', by rw [here, entry.1]⟩
        · exact ⟨b', by simpa [same] using entry⟩
      · exact ⟨b', entry⟩
    rw [find?_put]
    exact distinct before

/-- Only the barrier of the key in that place changes. -/
theorem barrierFor_put {r : Registry} {key : PartitionKey} {place : Place} (found : r.find? key = some place)
    (b : Barrier) (other : PartitionKey) :
    (r.put place b).barrierFor other = if other = key then b else r.barrierFor other := by
  obtain ⟨old, entry⟩ := entry_of_find? found
  have inside := (Array.getElem?_eq_some_iff.mp entry).1
  unfold barrierFor
  rw [find?_put, options_put]
  by_cases same : other = key
  · subst same
    simp [found, barrier?, put, inside]
  · rw [if_neg same]
    cases found' : r.find? other with
    | none => rfl
    | some place' =>
      have apart : place ≠ place' := by
        rintro rfl
        exact same (find?_inj found' found)
      simp [barrier?, put, entry, apart]

theorem update_eq {r : Registry} {key : PartitionKey} {place : Place} (found : r.find? key = some place)
    (f : Barrier → Barrier × Meter) : (r.update place f).1 = r.put place (f (r.barrierFor key)).1 := by
  simp [update, barrier?_of_find? found]

/-- Looking a key up in a longer list finds what it found before, or else the new entry. -/
theorem find?_push (r : Registry) (key : PartitionKey) (b : Barrier) (other : PartitionKey) :
    find? { r with entries := r.entries.push (key, b) } other =
      (r.find? other).or (if key = other then some r.entries.size else none) := by
  simp [find?, Array.findIdx?_push]

theorem push_extends {r : Registry} {key : PartitionKey} (new : r.find? key = none) (positive : 0 < r.options.parties)
    (b : Barrier) : r.Extends { r with entries := r.entries.push (key, b) } where
  options := rfl
  kept := fun known => by rw [find?_push, known]; rfl
  entered := fun _ => .inr positive
  distinct := fun distinct {place k b'} entry => by
    simp only [Array.getElem?_push] at entry
    rw [find?_push]
    split at entry
    · rename_i last
      cases entry
      simp [new, last]
    · rw [distinct entry]
      rfl

theorem barrier?_push (r : Registry) (key : PartitionKey) (b : Barrier) (place : Place) :
    barrier? { r with entries := r.entries.push (key, b) } place =
      if place = r.size then some b else r.barrier? place := by
  by_cases last : place = r.entries.size <;> simp [barrier?, Array.getElem?_push, size, last]

/-- A key that gets a new barrier has the one that it was taken to have before. -/
theorem barrierFor_push (r : Registry) (key other : PartitionKey) :
    barrierFor { r with entries := r.entries.push (key, { options := r.options }) } other = r.barrierFor other := by
  unfold barrierFor
  rw [find?_push]
  cases known : r.find? other with
  | some place =>
    obtain ⟨old, entry⟩ := entry_of_find? known
    have inside := (Array.getElem?_eq_some_iff.mp entry).1
    simp [barrier?, Array.getElem?_push, Nat.ne_of_lt inside]
  | none =>
    by_cases same : key = other
    · simp [same, barrier?]
    · simp [same]

/-- A key that is known stays as it is, and a new one is entered last, if barriers can be made. -/
theorem getOrCreate_cases (r : Registry) (key : PartitionKey) :
    (∃ place, r.find? key = some place ∧ r.getOrCreate key = (r, some place, {})) ∨
      (r.find? key = none ∧ 0 < r.options.parties ∧ r.getOrCreate key =
        ({ r with entries := r.entries.push (key, { options := r.options }) }, some r.size, { created := 1 })) ∨
      (r.find? key = none ∧ r.options.parties = 0 ∧ r.getOrCreate key = (r, none, { created := 1 })) := by
  cases found : r.find? key with
  | some place => exact .inl ⟨place, rfl, by simp [getOrCreate, found]⟩
  | none =>
    by_cases positive : 0 < r.options.parties
    · exact .inr (.inl ⟨rfl, positive, by simp [getOrCreate, found, create, Barrier.new?, positive, size]⟩)
    · exact .inr (.inr ⟨rfl, by omega, by simp [getOrCreate, found, create, Barrier.new?, positive]⟩)

/-- Asking for the barrier of a key enters the key if it is new, and changes no barrier. -/
theorem getOrCreate_some {r r' : Registry} {key : PartitionKey} {place : Place} {meter : Meter}
    (got : r.getOrCreate key = (r', some place, meter)) :
    r.Extends r' ∧ r'.find? key = some place ∧ ∀ other, r'.barrierFor other = r.barrierFor other := by
  unfold getOrCreate at got
  cases found : r.find? key with
  | some known =>
    simp only [found, Prod.mk.injEq, Option.some.injEq] at got
    obtain ⟨rfl, rfl, _⟩ := got
    exact ⟨.refl r, found, fun _ => rfl⟩
  | none =>
    simp only [found, create] at got
    cases made : Barrier.new? r.options with
    | none => simp [made] at got
    | some b =>
      obtain ⟨positive, rfl⟩ := Barrier.new?_eq_some made
      simp only [made, Prod.mk.injEq, Option.some.injEq] at got
      obtain ⟨rfl, rfl, _⟩ := got
      exact ⟨push_extends found positive _, by simp [find?_push, found], r.barrierFor_push key⟩

end Lockstep.Registry
