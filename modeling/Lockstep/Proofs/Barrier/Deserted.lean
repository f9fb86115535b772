import Lockstep.Proofs.Barrier.Gauge

namespace Lockstep.Barrier

variable {b b' : Barrier} {w : Wait} {a : Arrival}

/-- An abort settles no other generation. -/
private theorem outcome?_abort_of_ne {Name : Type} {blocked : Blocked Name} (sound : Sound b blocked)
    (unbroken : b.broken = false) {g : Nat} (other : g ≠ b.generation) : b.abort.1.outcome? g = b.outcome? g := by
  have size : b.outcomes.size = b.generation := by simpa [unbroken] using sound.settled
  simp [abort, unbroken, outcome?, Array.getElem?_push, size, other]

/-- What is left when all parties have gone away. -/
def deserted (b : Barrier) : Barrier :=
  if b.waiting = [] then b
  else match b.options.policy with
    | .breakGeneration => b.abort.1
    | .withdraw => { b with waiting := [] }

/-- What can be left when parties have gone away. -/
inductive Deserting (b : Barrier) : Barrier → Prop
  | whole : Deserting b b
  | broken : b.options.policy = .breakGeneration → b.broken = false → b.waiting ≠ [] → Deserting b b.abort.1
  | withdrawn (waiting : List Ticket) : b.options.policy = .withdraw → Deserting b { b with waiting }

/-- When nobody is left, it does not matter who went first. -/
theorem Deserting.eq_deserted (deserting : Deserting b b') (empty : b'.waiting = []) : b' = b.deserted := by
  unfold deserted
  cases deserting with
  | whole => rw [if_pos empty]
  | broken policy _ occupied => rw [if_neg occupied, policy]
  | withdrawn waiting policy =>
    obtain rfl : waiting = [] := empty
    by_cases vacant : b.waiting = []
    · rw [if_pos vacant, ← vacant]
    · rw [if_neg vacant, policy]

/-- One more party goes away. -/
theorem Deserting.drop (deserting : Deserting b b') (arrived : w.arrival = some a)
    (current : a.generation = b.generation) (unbroken : b.broken = false) (counted : a.ticket ∈ b.waiting) :
    Deserting b (b'.drop w).1 := by
  have occupied : b.waiting ≠ [] := List.ne_nil_of_mem counted
  have here : ¬(b.generation ≠ a.generation ∨ b.broken = true) := by simp [current, unbroken]
  simp only [Barrier.drop, arrived]
  cases deserting with
  | whole =>
    cases policy : b.options.policy with
    | breakGeneration =>
      rw [leave_break here policy]
      exact .broken policy unbroken occupied
    | withdraw =>
      rw [leave_withdraw here policy]
      exact .withdrawn _ policy
  | broken policy =>
    rw [leave_past (.inr b.broken_abort)]
    exact .broken policy unbroken occupied
  | withdrawn waiting policy =>
    rw [leave_withdraw (b := { b with waiting }) here policy]
    exact .withdrawn _ policy

/-- A party that would have gone on waiting goes on, or it is told that its generation was broken. -/
theorem Deserting.poll (deserting : Deserting b b') {now : Nat} (arrived : w.arrival = some a)
    (pending : (b.poll now w).2.1 = .pending w) (known : b.abort.1.outcome? a.generation = some .broken) :
    (b'.poll now w).2.1 = .pending w ∨
      b'.poll now w = (b', .done (.failed (.brokenDuring a.generation)), { waiting := -1 }) := by
  cases deserting with
  | whole => exact .inl pending
  | broken => exact .inr (poll_of_outcome arrived known now)
  | withdrawn waiting =>
    have blocked : ∀ c : Barrier, c.poll now w = c.pollBlocked now w a := fun c => by simp [Barrier.poll, arrived]
    rw [blocked] at pending
    rcases pollBlocked_cases b now w a with ⟨_, _, polled⟩ | ⟨_, _, polled⟩ | ⟨unknown, early, polled⟩
    · simp [polled] at pending
    · simp [polled] at pending
    · rw [polled] at pending
      have unknown' : ({ b with waiting } : Barrier).outcome? a.generation = none := unknown
      rw [blocked, pollBlocked, unknown']
      simpa [early] using pending

/-- Only the generation that had parties is newly broken, and under the break policy only. -/
theorem newly_broken_iff {Name : Type} {blocked : Blocked Name} (sound : Sound b blocked) (g : Nat) :
    b.deserted.outcome? g = some .broken ∧ b.outcome? g ≠ some .broken ↔
      b.options.policy = .breakGeneration ∧ b.waiting ≠ [] ∧ g = b.generation := by
  unfold deserted
  by_cases vacant : b.waiting = []
  · simp [vacant]
  · have unbroken : b.broken = false := Bool.eq_false_iff.mpr fun broken => vacant (sound.emptied broken)
    have unknown := (sound.outcome?_eq_none_iff b.generation).mpr (.inr ⟨rfl, unbroken⟩)
    cases policy : b.options.policy with
    | withdraw => simp [vacant, outcome?]
    | breakGeneration =>
      simp only [vacant, if_false, ne_eq, not_false_eq_true, true_and]
      constructor
      · rintro ⟨now, before⟩
        by_contra other
        refine before ?_
        rwa [outcome?_abort_of_ne sound unbroken other] at now
      · rintro rfl
        exact ⟨outcome?_abort sound unbroken, by simp [unknown]⟩

/-- A party that goes away breaks a barrier at most once, and releases nobody. -/
theorem counts_drop (b : Barrier) (w : Wait) :
    (b.drop w).2.breaks + (!(b.drop w).1.broken).toNat = (!b.broken).toNat ∧ (b.drop w).2.releases = 0 := by
  cases arrival : w.arrival with
  | none => simp [Barrier.drop, arrival]
  | some a =>
    simp only [Barrier.drop, arrival]
    by_cases past : b.generation ≠ a.generation ∨ b.broken = true
    · simp [leave_past past]
    · have unbroken : b.broken = false := by simpa using (not_or.mp past).2
      cases policy : b.options.policy with
      | breakGeneration => simp [leave_break past policy, abort, unbroken]
      | withdraw => simp [leave_withdraw past policy, withdrawn]

end Lockstep.Barrier
