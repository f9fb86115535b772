import Lockstep.Proofs.Barrier.Moves

namespace Lockstep

namespace Meter

@[simp] theorem add_waiting (a b : Meter) : (a + b).waiting = a.waiting + b.waiting := rfl

@[simp] theorem add_breaks (a b : Meter) : (a + b).breaks = a.breaks + b.breaks := rfl

@[simp] theorem add_releases (a b : Meter) : (a + b).releases = a.releases + b.releases := rfl

end Meter

/-- Of an array one entry is replaced. -/
theorem countP_set_add {α : Type} {xs : Array α} {i : Nat} {x : α} (found : xs[i]? = some x) (p : α → Bool) (y : α) :
    (xs.setIfInBounds i y).countP p + (p x).toNat = xs.countP p + (p y).toNat := by
  obtain ⟨inside, rfl⟩ := Array.getElem?_eq_some_iff.mp found
  have counts : (xs.set i y inside).countP p = _ := Array.countP_set inside
  have same : xs.setIfInBounds i y = xs.set i y inside := by simp [Array.setIfInBounds, inside]
  cases here : p xs[i] with
  | true =>
    have positive : 0 < xs.countP p := Array.countP_pos_iff.mpr ⟨_, Array.getElem_mem inside, here⟩
    cases there : p y <;> simp_all
  | false => cases there : p y <;> simp_all

/-- Counting one thing by counting two. -/
theorem countP_add {α : Type} (xs : Array α) {p q r : α → Bool}
    (each : ∀ x ∈ xs, (p x).toNat = (q x).toNat + (r x).toNat) : xs.countP p = xs.countP q + xs.countP r := by
  obtain ⟨xs⟩ := xs
  simp only [List.mem_toArray, List.countP_toArray] at each ⊢
  induction xs with
  | nil => rfl
  | cons x xs ih =>
    have first := each x List.mem_cons_self
    have later := ih fun y member => each y (List.mem_cons_of_mem x member)
    simp only [List.countP_cons]
    cases here : p x <;> cases there : q x <;> cases also : r x <;> simp_all <;> omega

namespace Barrier

/-- What a wait of this arrival is to the gauge. -/
def gauge (arrival : Option Arrival) : Int :=
  arrival.isSome.toNat

@[simp] theorem gauge_none : gauge none = 0 := rfl

@[simp] theorem gauge_some (a : Arrival) : gauge (some a) = 1 := rfl

theorem waiting_abort (b : Barrier) : b.abort.2.waiting = 0 := by
  unfold abort
  split <;> rfl

theorem waiting_reset (b : Barrier) : b.reset.2.waiting = 0 := by
  unfold reset
  cases b.waiting.isEmpty with
  | true => rfl
  | false => exact b.waiting_abort

private theorem waiting_pollBlocked (b : Barrier) (now : Nat) (w : Wait) (a : Arrival) :
    (b.pollBlocked now w a).2.2.waiting = gauge (b.pollBlocked now w a).2.1.arrival - 1 := by
  rcases pollBlocked_cases b now w a with ⟨_, _, polled⟩ | ⟨_, _, polled⟩ | ⟨_, _, polled⟩
  · simp [polled, Poll.arrival]
  · simp [polled, Poll.arrival, b.waiting_abort]
  · simp [polled, Poll.arrival]

theorem waiting_poll (b : Barrier) (now : Nat) (w : Wait) :
    (b.poll now w).2.2.waiting = gauge (b.poll now w).2.1.arrival - gauge w.arrival := by
  cases arrival : w.arrival with
  | some a =>
    have polled : b.poll now w = b.pollBlocked now w a := by simp [poll, arrival]
    rw [polled, waiting_pollBlocked, gauge_some]
  | none =>
    have polled : b.poll now w = b.arrive now w := by simp [poll, arrival]
    rw [polled]
    rcases arrive_cases b now w with ⟨_, arrives⟩ | ⟨_, _, arrives⟩ | ⟨_, _, a, _, arrives⟩
    · simp [arrives, Poll.arrival]
    · simp [arrives, Poll.arrival]
    · simp only [arrives, Meter.add_waiting, waiting_pollBlocked, gauge_none]
      omega

private theorem waiting_leave (b : Barrier) (a : Arrival) : (b.leave a).2.waiting = 0 := by
  unfold leave
  split
  · rfl
  · split
    · exact b.waiting_abort
    · rfl

theorem waiting_drop (b : Barrier) (w : Wait) : (b.drop w).2.waiting = -gauge w.arrival := by
  cases arrival : w.arrival with
  | none => simp [drop, arrival]
  | some a => simp [drop, arrival, b.waiting_leave]

end Barrier
end Lockstep
