import Lockstep.Proofs.Barrier.History
import Mathlib.Logic.Function.Basic

namespace Lockstep.Barrier

variable {Name : Type}

/-- The waits that have arrived and are not finished. -/
abbrev Blocked (Name : Type) := Name → Option Arrival

/-- One more party is blocked. -/
def joined (b : Barrier) : Barrier :=
  { b with waiting := b.waiting ++ [b.nextTicket], nextTicket := b.nextTicket + 1 }

/-- The last party arrives and all are released. -/
def released (b : Barrier) : Barrier :=
  { b with outcomes := b.outcomes.push (.released (b.waiting ++ [b.nextTicket])) }.advance

/-- An arrival is taken back. -/
def withdrawn (b : Barrier) (t : Ticket) : Barrier :=
  { b with waiting := b.waiting.filter (· ≠ t) }

/-- What can happen to a barrier and the waits on it, and what it shows. -/
inductive Move [DecidableEq Name] :
    Barrier → Blocked Name → List (Event Name) → Barrier → Blocked Name → Prop
  | join {b blocked name} (deadline : Option Nat) : b.broken = false → blocked name = none →
      b.waiting.length + 1 ≠ b.options.parties →
      Move b blocked [.arrived name b.generation] b.joined
        (Function.update blocked name (some ⟨b.generation, b.nextTicket, deadline⟩))
  | release {b blocked name} : b.broken = false → blocked name = none →
      b.waiting.length + 1 = b.options.parties →
      Move b blocked [.arrived name b.generation, .returned name b.generation (.released b.waiting.length)]
        b.released blocked
  | refuse {b blocked name} : b.broken = true →
      Move b blocked [.returned name b.generation (.failed (.brokenBefore b.generation))] b blocked
  | conclude {b blocked name a outcome} : blocked name = some a → b.outcome? a.generation = some outcome →
      Move b blocked [.returned name a.generation (outcome.result a)] b (Function.update blocked name none)
  | leave {b blocked name a} : blocked name = some a → (b.generation ≠ a.generation ∨ b.broken = true) →
      Move b blocked [.left name a.generation] b (Function.update blocked name none)
  | withdraw {b blocked name a} : b.broken = false → blocked name = some a → b.generation = a.generation →
      Move b blocked [.left name a.generation] (b.withdrawn a.ticket) (Function.update blocked name none)
  | abort {b blocked} : b.broken = false → Move b blocked [] b.abort.1 blocked
  | advance {b blocked} : b.broken = true → Move b blocked [] b.advance blocked

/-- Moves one after the other. -/
inductive Moves [DecidableEq Name] :
    Barrier → Blocked Name → List (Event Name) → Barrier → Blocked Name → Prop
  | none (b blocked) : Moves b blocked [] b blocked
  | more {b blocked es b' blocked' es' b'' blocked''} : Move b blocked es b' blocked' →
      Moves b' blocked' es' b'' blocked'' → Moves b blocked (es ++ es') b'' blocked''

theorem Move.moves [DecidableEq Name] {b b' : Barrier} {blocked blocked' : Blocked Name} {es : List (Event Name)}
    (m : Move b blocked es b' blocked') : Moves b blocked es b' blocked' := by
  simpa using Moves.more m (.none b' blocked')

theorem Move.then [DecidableEq Name] {b b' b'' : Barrier} {blocked blocked' blocked'' : Blocked Name}
    {es es' : List (Event Name)} (m : Move b blocked es b' blocked') (m' : Move b' blocked' es' b'' blocked'') :
    Moves b blocked (es ++ es') b'' blocked'' :=
  .more m m'.moves

/-- A barrier is made only for parties, and nothing has happened to it. -/
theorem new?_eq_some {o : Options} {b : Barrier} (made : new? o = some b) : 0 < o.parties ∧ b = { options := o } := by
  unfold new? at made
  split at made
  · rename_i positive
    exact ⟨positive, (Option.some.inj made).symm⟩
  · cases made

/-- Whoever is blocked after one wait is gone was blocked before, and is another one. -/
theorem blocked_of_update_none [DecidableEq Name] {blocked : Blocked Name} {name other : Name} {a : Arrival}
    (found : Function.update blocked name none other = some a) : other ≠ name ∧ blocked other = some a := by
  by_cases same : other = name
  · subst same
    simp at found
  · exact ⟨same, by simpa [same] using found⟩

structure Sound (b : Barrier) (blocked : Blocked Name) : Prop where
  below_parties : b.waiting.length < b.options.parties
  sorted : b.waiting.Pairwise (· < ·)
  below_next : ∀ t ∈ b.waiting, t < b.nextTicket
  emptied : b.broken = true → b.waiting = []
  settled : b.outcomes.size = b.generation + (if b.broken then 1 else 0)
  kept : b.broken = true → b.outcome? b.generation = some .broken
  begun : ∀ {name a}, blocked name = some a → a.generation ≤ b.generation
  counted : b.broken = false → ∀ {name a}, blocked name = some a → a.generation = b.generation → a.ticket ∈ b.waiting
  owned : ∀ t ∈ b.waiting, ∃ name a, blocked name = some a ∧ a.generation = b.generation ∧ a.ticket = t
  apart : ∀ {name name' a a'}, blocked name = some a → blocked name' = some a' → a.generation = a'.generation →
    a.ticket = a'.ticket → name = name'

namespace Sound

variable {b : Barrier} {blocked : Blocked Name}

theorem fresh {o : Options} (positive : 0 < o.parties) : Sound { options := o } (fun _ : Name => none) where
  below_parties := positive
  sorted := .nil
  below_next := by simp
  emptied := by simp
  settled := by simp
  kept := by simp
  begun := by simp
  counted := by simp
  owned := by simp
  apart := by simp

theorem outcome?_eq_none_iff (sound : Sound b blocked) (g : Nat) :
    b.outcome? g = none ↔ b.generation < g ∨ (b.generation = g ∧ b.broken = false) := by
  have size := sound.settled
  simp only [outcome?, Array.getElem?_eq_none_iff]
  cases broken : b.broken with
  | true => simp [broken] at size ⊢; omega
  | false => simp [broken] at size ⊢; omega

/-- In a generation that is over, or broken, nobody is counted. -/
private theorem over_of_outcome (sound : Sound b blocked) {g : Nat} {outcome : Outcome}
    (known : b.outcome? g = some outcome) : b.generation ≠ g ∨ b.broken = true := by
  by_cases current : b.generation = g
  · cases broken : b.broken with
    | true => exact .inr rfl
    | false =>
      rw [(sound.outcome?_eq_none_iff g).mpr (.inr ⟨current, broken⟩)] at known
      cases known
  · exact .inl current

/-- A party whose generation has no outcome is in the current one, which is open. -/
theorem current_of_unknown (sound : Sound b blocked) {name : Name} {a : Arrival} (arrived : blocked name = some a)
    (unknown : b.outcome? a.generation = none) : b.generation = a.generation ∧ b.broken = false := by
  rcases (sound.outcome?_eq_none_iff _).mp unknown with later | here
  · exact absurd (sound.begun arrived) (Nat.not_le_of_lt later)
  · exact here

theorem nodup (sound : Sound b blocked) : b.waiting.Nodup :=
  sound.sorted.imp fun less => Nat.ne_of_lt less

/-- The next ticket is nobody's in the current generation. -/
theorem next_not_mem (sound : Sound b blocked) : b.nextTicket ∉ b.waiting :=
  fun member => Nat.lt_irrefl _ (sound.below_next _ member)

variable [DecidableEq Name]

/-- A wait that is not counted finishes or goes away. -/
private theorem forget (sound : Sound b blocked) {name : Name} {a : Arrival} (arrived : blocked name = some a)
    (past : b.generation ≠ a.generation ∨ b.broken = true) : Sound b (Function.update blocked name none) where
  below_parties := sound.below_parties
  sorted := sound.sorted
  below_next := sound.below_next
  emptied := sound.emptied
  settled := sound.settled
  kept := sound.kept
  begun := fun found => sound.begun (blocked_of_update_none found).2
  counted := fun unbroken _ _ found => sound.counted unbroken (blocked_of_update_none found).2
  owned := by
    intro t member
    obtain ⟨owner, a', found, current, ticket⟩ := sound.owned t member
    have different : owner ≠ name := by
      rintro rfl
      rw [arrived] at found
      cases found
      rcases past with stale | broken
      · exact stale current.symm
      · simp [sound.emptied broken] at member
    exact ⟨owner, a', by simpa [different] using found, current, ticket⟩
  apart := fun found₁ found₂ => sound.apart (blocked_of_update_none found₁).2 (blocked_of_update_none found₂).2

private theorem join (sound : Sound b blocked) {name : Name} (deadline : Option Nat) (unbroken : b.broken = false)
    (absent : blocked name = none) (room : b.waiting.length + 1 ≠ b.options.parties) :
    Sound b.joined (Function.update blocked name (some ⟨b.generation, b.nextTicket, deadline⟩)) where
  below_parties := by
    have := sound.below_parties
    simp only [joined, List.length_append, List.length_singleton]
    omega
  sorted := by
    refine List.pairwise_append.mpr ⟨sound.sorted, List.pairwise_singleton _ _, ?_⟩
    intro t member next last
    rw [List.mem_singleton.mp last]
    exact sound.below_next t member
  below_next := by
    intro t member
    rcases List.mem_append.mp member with before | last
    · exact Nat.lt_succ_of_lt (sound.below_next t before)
    · rw [List.mem_singleton.mp last]
      exact Nat.lt_succ_self _
  emptied := by simp [joined, unbroken]
  settled := sound.settled
  kept := sound.kept
  begun := by
    intro other a found
    by_cases same : other = name
    · subst same
      simp only [Function.update_self, Option.some.injEq] at found
      subst found
      exact Nat.le_refl _
    · exact sound.begun (by simpa [same] using found)
  counted := by
    intro _ other a found current
    by_cases same : other = name
    · subst same
      simp only [Function.update_self, Option.some.injEq] at found
      subst found
      simp [joined]
    · exact List.mem_append_left _ (sound.counted unbroken (by simpa [same] using found) current)
  owned := by
    intro t member
    rcases List.mem_append.mp member with before | last
    · obtain ⟨owner, a, found, current, ticket⟩ := sound.owned t before
      have different : owner ≠ name := by
        rintro rfl
        rw [absent] at found
        cases found
      exact ⟨owner, a, by simpa [different] using found, current, ticket⟩
    · exact ⟨name, _, Function.update_self .., rfl, (List.mem_singleton.mp last).symm⟩
  apart := by
    -- The new ticket is above every other one of the generation.
    have above : ∀ {other a}, blocked other = some a → a.generation = b.generation → a.ticket ≠ b.nextTicket :=
      fun found current ticket => sound.next_not_mem (ticket ▸ sound.counted unbroken found current)
    intro one other a₁ a₂ found₁ found₂ generations tickets
    by_cases same₁ : one = name
    · by_cases same₂ : other = name
      · rw [same₁, same₂]
      · subst same₁
        simp only [Function.update_self, Option.some.injEq] at found₁
        subst found₁
        exact absurd tickets.symm (above (by simpa [same₂] using found₂) generations.symm)
    · by_cases same₂ : other = name
      · subst same₂
        simp only [Function.update_self, Option.some.injEq] at found₂
        subst found₂
        exact absurd tickets (above (by simpa [same₁] using found₁) generations)
      · exact sound.apart (by simpa [same₁] using found₁) (by simpa [same₂] using found₂) generations tickets

private theorem withdraw (sound : Sound b blocked) {name : Name} {a : Arrival} (unbroken : b.broken = false)
    (arrived : blocked name = some a) (current : b.generation = a.generation) :
    Sound (b.withdrawn a.ticket) (Function.update blocked name none) where
  below_parties := Nat.lt_of_le_of_lt (List.length_filter_le _ _) sound.below_parties
  sorted := sound.sorted.filter _
  below_next := fun t member => sound.below_next t (List.mem_filter.mp member).1
  emptied := by simp [withdrawn, unbroken]
  settled := sound.settled
  kept := sound.kept
  begun := fun found => sound.begun (blocked_of_update_none found).2
  counted := by
    intro _ other a' found here
    obtain ⟨different, found'⟩ := blocked_of_update_none found
    refine List.mem_filter.mpr ⟨sound.counted unbroken found' here, ?_⟩
    simp only [decide_eq_true_eq]
    exact fun ticket => different (sound.apart found' arrived (here.trans current) ticket)
  owned := by
    intro t member
    obtain ⟨before, kept⟩ := List.mem_filter.mp member
    obtain ⟨owner, a', found, here, ticket⟩ := sound.owned t before
    have different : owner ≠ name := by
      rintro rfl
      rw [arrived] at found
      cases found
      simp [ticket] at kept
    exact ⟨owner, a', by simpa [different] using found, here, ticket⟩
  apart := fun found₁ found₂ => sound.apart (blocked_of_update_none found₁).2 (blocked_of_update_none found₂).2

omit [DecidableEq Name] in
private theorem abort (sound : Sound b blocked) (unbroken : b.broken = false) : Sound b.abort.1 blocked where
  below_parties := by
    have := sound.below_parties
    simp only [Barrier.abort, unbroken]
    exact Nat.lt_of_le_of_lt (Nat.zero_le _) this
  sorted := by simp [Barrier.abort, unbroken]
  below_next := by simp [Barrier.abort, unbroken]
  emptied := by simp [Barrier.abort, unbroken]
  settled := by
    have := sound.settled
    simp [Barrier.abort, unbroken] at this ⊢
    exact this
  kept := by
    have size := sound.settled
    simp only [unbroken, Bool.false_eq_true, if_false, Nat.add_zero] at size
    simp [Barrier.abort, unbroken, outcome?, ← size]
  begun := fun found => by simpa [Barrier.abort, unbroken] using sound.begun found
  counted := by simp [Barrier.abort, unbroken]
  owned := by simp [Barrier.abort, unbroken]
  apart := sound.apart

omit [DecidableEq Name] in
/-- After a generation with an outcome the next one starts with nobody in it. -/
private theorem opened {b' : Barrier} (sound : Sound b blocked) (options : b'.options = b.options)
    (waiting : b'.waiting = []) (generation : b'.generation = b.generation + 1) (unbroken : b'.broken = false)
    (size : b'.outcomes.size = b.generation + 1) : Sound b' blocked where
  below_parties := by
    have := sound.below_parties
    simp only [options, waiting, List.length_nil]
    omega
  sorted := by simp [waiting]
  below_next := by simp [waiting]
  emptied := by simp [waiting]
  settled := by simp [size, generation, unbroken]
  kept := by simp [unbroken]
  begun := fun found => by
    have := sound.begun found
    omega
  counted := fun _ _ _ found current => by
    have := sound.begun found
    omega
  owned := by simp [waiting]
  apart := sound.apart

/-- No move breaks what ties a barrier to its parties. -/
theorem move (sound : Sound b blocked) {es : List (Event Name)} {b' : Barrier} {blocked' : Blocked Name}
    (m : Move b blocked es b' blocked') : Sound b' blocked' := by
  cases m with
  | join deadline unbroken absent room => exact sound.join deadline unbroken absent room
  | release unbroken absent last =>
    have size := sound.settled
    refine sound.opened rfl rfl rfl rfl ?_
    simp [released, Barrier.advance, size, unbroken]
  | refuse broken => exact sound
  | conclude arrived known => exact sound.forget arrived (sound.over_of_outcome known)
  | leave arrived past => exact sound.forget arrived past
  | withdraw unbroken arrived current => exact sound.withdraw unbroken arrived current
  | abort unbroken => exact sound.abort unbroken
  | advance broken =>
    have size := sound.settled
    refine sound.opened rfl rfl rfl rfl ?_
    simp [Barrier.advance, size, broken]

end Sound
end Lockstep.Barrier
