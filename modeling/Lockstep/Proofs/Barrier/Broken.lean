import Lockstep.Proofs.Barrier.AllOrNothing
import Lockstep.Proofs.Barrier.Gauge
import Lockstep.Proofs.Barrier.Rest

/-!
# Broken generations

Nothing but a reset changes a barrier whose generation is broken: every poll
finishes its wait, nobody arrives, and no other generation is reached. A reset
opens the next generation, and leaves the one before it broken for all parties
that are still blocked in it.
-/
namespace Lockstep.Barrier

variable {Name : Type} [DecidableEq Name] {b : Barrier} {blocked : Blocked Name} {name : Name} {w : Wait}

omit [DecidableEq Name] in
/-- Every poll finishes its wait and leaves the barrier as it was. -/
private theorem poll_of_broken (sound : Sound b blocked) (broken : b.broken = true) (known : blocked name = w.arrival)
    (now : Nat) : ∃ result, b.poll now w = (b, .done result, { waiting := -gauge w.arrival }) := by
  cases arrival : w.arrival with
  | none => exact ⟨.failed (.brokenBefore b.generation), by simp [poll, arrive, arrival, broken]⟩
  | some a =>
    have arrived := known.trans arrival
    cases outcome : b.outcome? a.generation with
    | some outcome' => exact ⟨outcome'.result a, poll_of_outcome arrival outcome now⟩
    | none =>
      -- Its generation would be the current one, and open.
      obtain ⟨_, unbroken⟩ := sound.current_of_unknown arrived outcome
      rw [broken] at unbroken
      cases unbroken

omit [DecidableEq Name] in
private theorem drop_of_broken (broken : b.broken = true) (w : Wait) :
    b.drop w = (b, { waiting := -gauge w.arrival }) := by
  cases arrival : w.arrival with
  | none => simp [drop, arrival]
  | some a => simp [drop, arrival, leave_past (.inr broken), Meter.empty_add]

namespace Run

variable {r : Run Name}

/-- Nothing was done to the barrier, no break was counted, and nobody arrived. -/
structure Untouched (r r' : Run Name) (shown : List (Event Name)) : Prop where
  barrier : r'.barrier = r.barrier
  breaks : r'.meter.breaks = r.meter.breaks
  unarrived : ∀ name g, .arrived name g ∉ shown

private theorem unarrived_of_broken (broken : r.barrier.broken = true) (op : Operation Name) (name : Name) (g : Nat) :
    .arrived name g ∉ r.events op := by
  intro member
  obtain ⟨before, rest, shows⟩ := List.append_of_mem member
  obtain ⟨rfl, rfl⟩ := events_arrived shows
  obtain ⟨_, _, _, unbroken, _⟩ := events_poll_arrived shows
  rw [broken] at unbroken
  cases unbroken

private theorem Valid.untouched_step (valid : r.Valid) (broken : r.barrier.broken = true) {op : Operation Name}
    (other : op ≠ .reset) : r.Untouched (r.perform op) (r.events op) := by
  suffices same : (r.perform op).barrier = r.barrier ∧ (r.perform op).meter.breaks = r.meter.breaks from
    ⟨same.1, same.2, unarrived_of_broken broken op⟩
  cases op with
  | create name timeout =>
    simp only [Run.perform, create]
    split
    · exact ⟨rfl, rfl⟩
    · exact ⟨rfl, rfl⟩
  | poll name =>
    simp only [Run.perform]
    cases found : r.find? name with
    | none => simp [poll_absent found]
    | some w =>
      have known : r.blocked name = w.arrival := by simp [Run.blocked, found]
      obtain ⟨result, polled⟩ := poll_of_broken valid.sound broken known r.now
      rw [poll_done found (by rw [polled]), polled]
      exact ⟨rfl, by simp⟩
  | drop name =>
    simp only [Run.perform]
    cases found : r.find? name with
    | none => simp [drop_absent found]
    | some w =>
      rw [drop_found found, drop_of_broken broken]
      exact ⟨rfl, by simp⟩
  | advance ms => exact ⟨rfl, rfl⟩
  | abort =>
    simp [Run.perform, abort_of_broken broken]
  | reset => exact absurd rfl other

theorem Valid.untouched_run (valid : r.Valid) (broken : r.barrier.broken = true) {more : List (Operation Name)}
    (unreset : .reset ∉ more) : r.Untouched (r.run more) (r.history more) := by
  induction more generalizing r with
  | nil => exact ⟨rfl, rfl, by simp⟩
  | cons op more ih =>
    simp only [List.mem_cons, not_or] at unreset
    obtain ⟨other, unreset⟩ := unreset
    have first := valid.untouched_step broken (Ne.symm other)
    have later := ih (valid.perform op) (by rw [first.barrier]; exact broken) unreset
    refine ⟨later.barrier.trans first.barrier, later.breaks.trans first.breaks, fun name g member => ?_⟩
    rcases List.mem_append.mp member with now | after
    · exact first.unarrived name g now
    · exact later.unarrived name g after

/-- A wait that comes to a broken generation is refused within its first poll, and leaves no other trace. -/
private theorem poll_refused (found : r.find? name = some w) (first : w.arrival = none)
    (broken : r.barrier.broken = true) : r.poll name = { r.remove name with
      results := r.results ++ [(name, .failed (.brokenBefore r.barrier.generation))] } := by
  have polled : r.barrier.poll r.now w = (r.barrier, .done (.failed (.brokenBefore r.barrier.generation)), {}) := by
    simp [Barrier.poll, arrive, first, broken]
  rw [poll_done found (by rw [polled]), polled, Meter.add_empty]
  rfl

omit [DecidableEq Name] in
/-- A reset settles the current generation as broken. -/
private theorem outcome?_reset (sound : Sound b blocked) : b.reset.1.outcome? b.generation = some .broken := by
  rw [reset_eq]
  cases broken : b.broken with
  | true =>
    rw [abort_of_broken broken]
    exact sound.kept broken
  | false => exact outcome?_abort sound broken

theorem status_reset (b : Barrier) :
    b.reset.1.status = { parties := b.options.parties, waiting := 0, broken := false, generation := b.generation + 1 } := by
  rw [reset_eq]
  cases broken : b.broken <;> simp [status, advance, abort, broken]

/-- A generation that is broken stays so, and all of its parties fail. -/
theorem fails_of_broken {o : Options} (positive : 0 < o.parties) (ops : List (Operation Name)) {g : Nat} :
    let start : Run Name := { barrier := { options := o } }
    (start.run ops).barrier.outcome? g = some .broken → ∀ more,
      (start.run (ops ++ more)).barrier.outcome? g = some .broken ∧ start.Fails (ops ++ more) g := by
  intro start broken more
  obtain ⟨sound, _, _⟩ := story_of_run positive ops
  have settled : (start.run (ops ++ more)).barrier.outcome? g = some .broken := by
    rw [run_append]
    exact (run_moves _ sound more).outcome? broken
  refine ⟨settled, fails_of_story positive _ fun tickets released => ?_⟩
  rw [settled] at released
  cases released

/-- A run whose generation is broken, and how it stands after operations that do not reset it. -/
structure StaysBroken (r r' : Run Name) (shown : List (Event Name)) : Prop where
  status : r'.barrier.status = { r.barrier.status with waiting := 0, broken := true }
  breaks : r'.meter.breaks = r.meter.breaks
  /-- Nobody is counted who comes later, -/
  unarrived : ∀ name g, .arrived name g ∉ shown
  /-- because whoever comes fails within the first poll, which changes neither the barrier nor what is metered. -/
  refused : ∀ name w, r'.find? name = some w → w.arrival = none → ∃ why, why.fault.kind = .barrierBroken ∧
    r'.perform (.poll name) = { r'.remove name with results := r'.results ++ [(name, .failed why)] }

end Run

/-- A broken generation stays broken, and refuses all that come to it, until it is reset. A reset opens the next
    generation with nobody in it, and whoever is still blocked in the one before fails when it is polled. -/
theorem broken_until_reset {o : Options} {b : Barrier} (made : new? o = some b) (ops : List (Operation Name)) :
    let start : Run Name := { barrier := b }
    let r := start.run ops
    (r.barrier.broken = true → ∀ more, .reset ∉ more → r.StaysBroken (r.run more) (r.history more)) ∧
    (r.perform .reset).barrier.status =
      { parties := o.parties, waiting := 0, broken := false, generation := r.barrier.generation + 1 } ∧
    ∀ more, (start.run (ops ++ .reset :: more)).barrier.outcome? r.barrier.generation = some .broken ∧
      start.Fails (ops ++ .reset :: more) r.barrier.generation := by
  intro start r
  have valid : r.Valid := (Run.Valid.new made).run ops
  obtain ⟨positive, rfl⟩ := new?_eq_some made
  obtain ⟨_, options, _⟩ := Run.story_of_run positive ops
  refine ⟨fun broken more unreset => ?_, ?_, ?_⟩
  · have untouched := valid.untouched_run broken unreset
    have broken' : (r.run more).barrier.broken = true := by rw [untouched.barrier]; exact broken
    refine ⟨?_, untouched.breaks, untouched.unarrived, fun name w found first => ?_⟩
    · simp [untouched.barrier, status, broken, valid.sound.emptied broken]
    · exact ⟨.brokenBefore (r.run more).barrier.generation, rfl, Run.poll_refused found first broken'⟩
  · rw [show (r.perform .reset).barrier = r.barrier.reset.1 from rfl, Run.status_reset, options]
  · have settled : (start.run (ops ++ [.reset])).barrier.outcome? r.barrier.generation = some .broken := by
      rw [Run.run_append]
      exact Run.outcome?_reset valid.sound
    intro more
    rw [List.append_cons]
    exact Run.fails_of_broken positive _ settled more

/-- One of two blocked parties of three goes away, which breaks the generation for the other. -/
def oneOfThreeGone : List (Operation Nat) :=
  [.create 0 none, .create 1 (some 5), .poll 0, .poll 1, .drop 0]

/-- A third comes, the deadline of the other passes, and the barrier is aborted once more. -/
def lateComer : List (Operation Nat) :=
  [.create 2 (some 0), .advance 9, .abort, .poll 1]

theorem broken_until_reset_abandoned :
    let start : Run Nat := { barrier := { options := ⟨3, .breakGeneration⟩ } }
    let r := start.run oneOfThreeGone
    new? ⟨3, .breakGeneration⟩ = some start.barrier ∧ r.barrier.broken = true ∧ .reset ∉ lateComer ∧
      r.StaysBroken (r.run lateComer) (r.history lateComer) ∧ start.Fails (oneOfThreeGone ++ .reset :: lateComer) 0 := by
  intro start r
  have broken : r.barrier.broken = true := by decide
  have unreset : .reset ∉ lateComer := by decide
  obtain ⟨stays, _, reset⟩ := broken_until_reset (o := ⟨3, .breakGeneration⟩) rfl oneOfThreeGone
  exact ⟨rfl, broken, unreset, stays broken lateComer unreset, (reset lateComer).2⟩

end Lockstep.Barrier
