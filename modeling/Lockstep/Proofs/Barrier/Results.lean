import Lockstep.Proofs.Barrier.Generation

namespace Lockstep.Barrier

variable {Name : Type} [DecidableEq Name] {b : Barrier} {blocked : Blocked Name} {h : List (Event Name)}

/-- How a wait can end at a barrier that has come to this generation. -/
inductive Ends (parties generation : Nat) : Result → Prop
  | released (index : Nat) : index < parties → Ends parties generation (.released index)
  | refused (g : Nat) : g ≤ generation → Ends parties generation (.failed (.brokenBefore g))
  | broken (g : Nat) : g ≤ generation → Ends parties generation (.failed (.brokenDuring g))

theorem Ends.mono {parties generation generation' : Nat} {result : Result} (ends : Ends parties generation result)
    (more : generation ≤ generation') : Ends parties generation' result := by
  cases ends with
  | released index inside => exact .released index inside
  | refused g begun => exact .refused g (Nat.le_trans begun more)
  | broken g begun => exact .broken g (Nat.le_trans begun more)

private theorem pollBlocked_ends (sound : Sound b blocked) (stories : ∀ g, Story b blocked h g) {name : Name}
    {a : Arrival} (arrived : blocked name = some a) {now : Nat} {w : Wait} {result : Result}
    (polled : (b.pollBlocked now w a).2.1 = .done result) : Ends b.options.parties b.generation result := by
  have begun := sound.begun arrived
  rcases pollBlocked_cases b now w a with ⟨outcome, known, eq⟩ | ⟨_, _, eq⟩ | ⟨_, _, eq⟩
  · rw [eq] at polled
    obtain rfl : outcome.result a = result := by simpa using polled
    cases outcome with
    | broken => exact .broken a.generation begun
    | released tickets =>
      obtain ⟨parties, freed⟩ := (stories a.generation).freed known
      obtain ⟨index, place, ticketed⟩ := freed.listed name a arrived rfl
      have inside : index < parties.length := (List.getElem?_eq_some_iff.mp place).1
      rw [freed.length] at inside
      simp only [Outcome.result, ticketed]
      exact .released index inside
  · rw [eq] at polled
    obtain rfl : Result.failed (.brokenDuring a.generation) = result := by simpa using polled
    exact .broken a.generation begun
  · rw [eq] at polled
    cases polled

theorem poll_ends (sound : Sound b blocked) (stories : ∀ g, Story b blocked h g) {name : Name} {now : Nat} {w : Wait}
    (known : blocked name = w.arrival) {result : Result} (polled : (b.poll now w).2.1 = .done result) :
    Ends b.options.parties b.generation result := by
  unfold poll at polled
  cases arrival : w.arrival with
  | some a =>
    rw [arrival] at polled
    exact pollBlocked_ends sound stories (known.trans arrival) polled
  | none =>
    rw [arrival] at polled
    rcases arrive_cases b now w with ⟨_, eq⟩ | ⟨_, _, eq⟩ | ⟨unbroken, _, a, rfl, eq⟩
    · simp only [eq, Poll.done.injEq] at polled
      rw [← polled]
      exact .refused b.generation (Nat.le_refl _)
    · simp only [eq, Poll.done.injEq] at polled
      rw [← polled]
      exact .released b.waiting.length sound.below_parties
    · -- its generation is open, so it can only run out of time
      simp only [eq] at polled
      have unknown : b.joined.outcome? b.generation = none :=
        (sound.outcome?_eq_none_iff b.generation).mpr (.inr ⟨rfl, unbroken⟩)
      rcases pollBlocked_cases b.joined now w ⟨b.generation, b.nextTicket, w.timeout.map (now + ·)⟩ with
        ⟨_, settled, _⟩ | ⟨_, _, eq⟩ | ⟨_, _, eq⟩
      · rw [unknown] at settled
        cases settled
      · simp only [eq, Poll.done.injEq] at polled
        rw [← polled]
        exact .broken b.generation (Nat.le_refl _)
      · simp [eq] at polled

theorem generation_poll_le (b : Barrier) (now : Nat) (w : Wait) : (b.poll now w).1.generation ≤ b.generation + 1 := by
  have blocked : ∀ (b : Barrier) (a : Arrival), (b.pollBlocked now w a).1.generation = b.generation := by
    intro b a
    rcases pollBlocked_cases b now w a with ⟨_, _, eq⟩ | ⟨_, _, eq⟩ | ⟨_, _, eq⟩
    · rw [eq]
    · rw [eq, generation_abort]
    · rw [eq]
  unfold poll
  cases w.arrival with
  | some a =>
    show (b.pollBlocked now w a).1.generation ≤ _
    rw [blocked]
    omega
  | none =>
    show (b.arrive now w).1.generation ≤ _
    rcases arrive_cases b now w with ⟨_, eq⟩ | ⟨_, _, eq⟩ | ⟨_, _, a, _, eq⟩
    · rw [eq]
      exact Nat.le_succ _
    · rw [eq]
      exact Nat.le_refl _
    · rw [eq, blocked]
      exact Nat.le_succ _

theorem generation_reset_le (b : Barrier) : b.reset.1.generation ≤ b.generation + 1 := by
  rw [reset_eq]
  exact Nat.succ_le_succ (Nat.le_of_eq b.generation_abort)

end Lockstep.Barrier
