import Lockstep.Proofs.Barrier.Waits
import Mathlib.Data.List.Basic

namespace Lockstep.Barrier

/-- Other numbers: the generations come after those in `past`, and the tickets of each get new numbers. -/
structure Renaming where
  past : Array Outcome
  ticket : Nat → Ticket → Ticket

def Outcome.renamed (f : Ticket → Ticket) : Outcome → Outcome
  | .released tickets => .released (tickets.map f)
  | .broken => .broken

def Arrival.renamed (ρ : Renaming) (a : Arrival) : Arrival where
  generation := a.generation + ρ.past.size
  ticket := ρ.ticket a.generation a.ticket
  deadline := a.deadline

def Wait.renamed (ρ : Renaming) (w : Wait) : Wait :=
  { w with arrival := w.arrival.map (·.renamed ρ) }

def Failure.renamed (ρ : Renaming) : Failure → Failure
  | .brokenBefore g => .brokenBefore (g + ρ.past.size)
  | .brokenDuring g => .brokenDuring (g + ρ.past.size)
  | .missing t g => .missing (ρ.ticket g t) (g + ρ.past.size)

def Result.renamed (ρ : Renaming) : Result → Result
  | .released index => .released index
  | .failed why => .failed (why.renamed ρ)

def Poll.renamed (ρ : Renaming) : Poll → Poll
  | .pending w => .pending (w.renamed ρ)
  | .done result => .done (result.renamed ρ)

def renamed (ρ : Renaming) (b : Barrier) : Barrier where
  options := b.options
  waiting := b.waiting.map (ρ.ticket b.generation)
  nextTicket := ρ.ticket b.generation b.nextTicket
  generation := b.generation + ρ.past.size
  broken := b.broken
  outcomes := ρ.past ++ b.outcomes.mapIdx fun g outcome => outcome.renamed (ρ.ticket g)

/-- Different tickets stay different, and the next ones are counted as before. -/
structure Renaming.Fits (ρ : Renaming) (b : Barrier) : Prop where
  injective : ∀ g, Function.Injective (ρ.ticket g)
  counts : ∀ t, b.nextTicket ≤ t → ρ.ticket b.generation (t + 1) = ρ.ticket b.generation t + 1
  later : ∀ g, b.generation < g → ∀ t, ρ.ticket g t = t

section
variable {ρ : Renaming} {b : Barrier}

private theorem Renaming.Fits.of_counted (fits : ρ.Fits b) {b' : Barrier} (generation : b'.generation = b.generation)
    (next : b.nextTicket ≤ b'.nextTicket) : ρ.Fits b' where
  injective := fits.injective
  counts := fun t le => by
    rw [generation]
    exact fits.counts t (Nat.le_trans next le)
  later := fun g lt => fits.later g (by omega)

private theorem Renaming.Fits.of_later (fits : ρ.Fits b) {b' : Barrier} (generation : b.generation < b'.generation) :
    ρ.Fits b' where
  injective := fits.injective
  counts := fun t _ => by rw [fits.later _ generation, fits.later _ generation]
  later := fun g lt => fits.later g (by omega)

private theorem Renaming.Fits.moves {Name : Type} [DecidableEq Name] (fits : ρ.Fits b) {blocked blocked' : Blocked Name}
    {es : List (Event Name)} {b' : Barrier} (m : Moves b blocked es b' blocked') : ρ.Fits b' := by
  induction m with
  | none => exact fits
  | more first _ ih =>
    refine ih ?_
    cases first with
    | join => exact fits.of_counted rfl (Nat.le_succ _)
    | release => exact fits.of_later (Nat.lt_succ_self _)
    | abort unbroken => exact fits.of_counted (by simp) (by simp [Barrier.abort, unbroken])
    | advance => exact fits.of_later (Nat.lt_succ_self _)
    | _ => exact fits.of_counted rfl (Nat.le_refl _)

private theorem outcome?_renamed (ρ : Renaming) (b : Barrier) (g : Nat) :
    (b.renamed ρ).outcome? (g + ρ.past.size) = (b.outcome? g).map (·.renamed (ρ.ticket g)) := by
  simp [outcome?, renamed, Array.getElem?_append_right]

/-- The number of the generation is all that can be seen of other numbers. -/
theorem status_renamed (ρ : Renaming) (b : Barrier) :
    (b.renamed ρ).status = { b.status with generation := b.status.generation + ρ.past.size } := by
  simp [status, renamed]

private theorem Outcome.result_renamed (injective : ∀ g, Function.Injective (ρ.ticket g)) (outcome : Outcome)
    (a : Arrival) : (outcome.renamed (ρ.ticket a.generation)).result (a.renamed ρ) = (outcome.result a).renamed ρ := by
  cases outcome with
  | broken => rfl
  | released tickets =>
    have place : (tickets.map (ρ.ticket a.generation)).idxOf? (ρ.ticket a.generation a.ticket) =
        tickets.idxOf? a.ticket := by
      simp only [List.idxOf?, List.findIdx?_map]
      congr 1
      funext t
      simp [(injective a.generation).eq_iff]
    simp only [renamed, result, Arrival.renamed, place]
    cases tickets.idxOf? a.ticket <;> rfl

/-- A result that tells no ticket. -/
def Result.Plain : Result → Prop
  | .failed (.missing ..) => False
  | _ => True

private theorem Result.renamed_plain (past : ρ.past = #[]) {result : Result} (plain : result.Plain) :
    result.renamed ρ = result := by
  cases result with
  | released index => rfl
  | failed why =>
    cases why with
    | missing t g => cases plain
    | _ => simp [renamed, Failure.renamed, past]

private theorem abort_renamed (ρ : Renaming) (b : Barrier) :
    (b.renamed ρ).abort = (b.abort.1.renamed ρ, b.abort.2) := by
  cases broken : b.broken with
  | true => simp [abort, renamed, broken]
  | false => simp [abort, renamed, broken, Array.mapIdx_push, Outcome.renamed]

private theorem advance_renamed (fits : ρ.Fits b) : (b.renamed ρ).advance = b.advance.renamed ρ := by
  simp [advance, renamed, fits.later (b.generation + 1) (Nat.lt_succ_self _), Nat.add_right_comm]

private theorem reset_renamed (fits : ρ.Fits b) : (b.renamed ρ).reset = (b.reset.1.renamed ρ, b.reset.2) := by
  have barrier : (b.renamed ρ).reset.1 = b.reset.1.renamed ρ := by
    have fits' : ρ.Fits b.abort.1 := fits.of_counted (by simp) (by unfold Barrier.abort; split <;> simp)
    rw [reset_eq, reset_eq, abort_renamed, advance_renamed fits']
  have meter : (b.renamed ρ).reset.2 = b.reset.2 := by
    simp only [reset, abort_renamed]
    cases empty : b.waiting <;> simp [renamed, empty]
  rw [← barrier, ← meter]

private theorem pollBlocked_renamed (injective : ∀ g, Function.Injective (ρ.ticket g)) (now : Nat) (w : Wait)
    (a : Arrival) : (b.renamed ρ).pollBlocked now (w.renamed ρ) (a.renamed ρ) =
      ((b.pollBlocked now w a).1.renamed ρ, (b.pollBlocked now w a).2.1.renamed ρ, (b.pollBlocked now w a).2.2) := by
  have outcome : (b.renamed ρ).outcome? (a.renamed ρ).generation =
      (b.outcome? a.generation).map (·.renamed (ρ.ticket a.generation)) := b.outcome?_renamed ρ a.generation
  unfold pollBlocked
  rw [outcome]
  cases b.outcome? a.generation with
  | some o => simp [Poll.renamed, Outcome.result_renamed injective]
  | none =>
    change (if a.deadline.any (· ≤ now) then _ else _) = _
    by_cases due : a.deadline.any (· ≤ now) = true
    · simp [due, abort_renamed, Poll.renamed, Result.renamed, Failure.renamed, Arrival.renamed]
    · simp [due, Poll.renamed, Wait.renamed]

private theorem joined_renamed (fits : ρ.Fits b) : (b.renamed ρ).joined = b.joined.renamed ρ := by
  simp [joined, renamed, fits.counts b.nextTicket (Nat.le_refl _)]

private theorem released_renamed (fits : ρ.Fits b) (size : b.outcomes.size = b.generation) :
    (b.renamed ρ).released = b.released.renamed ρ := by
  have pushed := advance_renamed (b := { b with outcomes := b.outcomes.push (.released (b.waiting ++ [b.nextTicket])) })
    (fits.of_counted rfl (Nat.le_refl _))
  rw [released, released, ← pushed]
  simp [renamed, Array.mapIdx_push, Outcome.renamed, size]

private theorem arrive_renamed (fits : ρ.Fits b) (size : b.broken = false → b.outcomes.size = b.generation) (now : Nat)
    (w : Wait) : (b.renamed ρ).arrive now (w.renamed ρ) =
      ((b.arrive now w).1.renamed ρ, (b.arrive now w).2.1.renamed ρ, (b.arrive now w).2.2) := by
  have same : (b.renamed ρ).waiting.length = b.waiting.length := by simp [renamed]
  rcases arrive_cases b now w with ⟨broken, eq⟩ | ⟨unbroken, last, eq⟩ | ⟨unbroken, room, a, rfl, eq⟩
  · have broken' : (b.renamed ρ).broken = true := broken
    rw [eq, arrive, if_pos broken']
    rfl
  · rcases arrive_cases (b.renamed ρ) now (w.renamed ρ) with ⟨broken, _⟩ | ⟨_, _, eq'⟩ | ⟨_, room, _⟩
    · exact absurd (unbroken.symm.trans broken) (by simp)
    · rw [eq, eq', released_renamed fits (size unbroken), same]
      rfl
    · exact absurd (by rw [same]; exact last) room
  · rcases arrive_cases (b.renamed ρ) now (w.renamed ρ) with ⟨broken, _⟩ | ⟨_, last, _⟩ | ⟨_, _, a', rfl, eq'⟩
    · exact absurd (unbroken.symm.trans broken) (by simp)
    · exact absurd (by rw [← same]; exact last) room
    · rw [eq, eq', joined_renamed fits]
      have looks := pollBlocked_renamed (b := b.joined) fits.injective now w
        ⟨b.generation, b.nextTicket, w.timeout.map (now + ·)⟩
      exact congrArg (fun x : Barrier × Poll × Meter => (x.1, x.2.1, { waiting := 1 } + x.2.2)) looks

private theorem poll_renamed (fits : ρ.Fits b) (size : b.broken = false → b.outcomes.size = b.generation) (now : Nat)
    (w : Wait) : (b.renamed ρ).poll now (w.renamed ρ) =
      ((b.poll now w).1.renamed ρ, (b.poll now w).2.1.renamed ρ, (b.poll now w).2.2) := by
  cases arrival : w.arrival with
  | none => simpa [poll, Wait.renamed, arrival] using arrive_renamed fits size now w
  | some a => simpa [poll, Wait.renamed, arrival] using pollBlocked_renamed fits.injective now w a

private theorem leave_renamed (injective : ∀ g, Function.Injective (ρ.ticket g)) (a : Arrival) :
    (b.renamed ρ).leave (a.renamed ρ) = ((b.leave a).1.renamed ρ, (b.leave a).2) := by
  have past : ((b.renamed ρ).generation ≠ (a.renamed ρ).generation ∨ (b.renamed ρ).broken = true) ↔
      (b.generation ≠ a.generation ∨ b.broken = true) := by simp [renamed, Arrival.renamed]
  by_cases gone : b.generation ≠ a.generation ∨ b.broken = true
  · rw [leave_past gone, leave_past (past.mpr gone)]
  · cases policy : b.options.policy with
    | breakGeneration => rw [leave_break gone policy, leave_break (mt past.mp gone) policy, abort_renamed]
    | withdraw =>
      rw [leave_withdraw gone policy, leave_withdraw (mt past.mp gone) policy]
      have current : b.generation = a.generation := by
        by_contra other
        exact gone (.inl other)
      have kept : (b.waiting.map (ρ.ticket b.generation)).filter (· ≠ ρ.ticket a.generation a.ticket) =
          (b.waiting.filter (· ≠ a.ticket)).map (ρ.ticket b.generation) := by
        rw [List.filter_map]
        congr 1
        refine List.filter_congr fun t _ => ?_
        simp [current, (injective a.generation).eq_iff]
      exact congrArg (fun waiting => ({ b.renamed ρ with waiting }, ({} : Meter))) kept

private theorem drop_renamed (injective : ∀ g, Function.Injective (ρ.ticket g)) (w : Wait) :
    (b.renamed ρ).drop (w.renamed ρ) = ((b.drop w).1.renamed ρ, (b.drop w).2) := by
  cases arrival : w.arrival with
  | none => simp [drop, Wait.renamed, arrival]
  | some a => simp [drop, Wait.renamed, arrival, leave_renamed injective]

end

namespace Run

variable {Name : Type} {ρ : Renaming}

def renamed (ρ : Renaming) (r : Run Name) : Run Name where
  barrier := r.barrier.renamed ρ
  now := r.now
  waits := r.waits.map fun e => (e.1, e.2.renamed ρ)
  results := r.results.map fun e => (e.1, e.2.renamed ρ)
  meter := r.meter

theorem results_renamed {r : Run Name} (past : ρ.past = #[]) (plain : ∀ e ∈ r.results, e.2.Plain) :
    (r.renamed ρ).results = r.results := by
  refine (List.map_congr_left fun e member => ?_).trans (List.map_id _)
  rw [Result.renamed_plain past (plain e member), id]

variable [DecidableEq Name] {r : Run Name}

private theorem find?_renamed (ρ : Renaming) (r : Run Name) (name : Name) :
    (r.renamed ρ).find? name = (r.find? name).map (·.renamed ρ) := by
  simp only [find?, renamed, List.find?_map, Option.map_map]
  rfl

private theorem put_renamed (ρ : Renaming) (r : Run Name) (name : Name) (w : Wait) :
    (r.renamed ρ).put name (w.renamed ρ) = (r.put name w).renamed ρ := by
  simp only [put, renamed, List.map_map]
  congr 1
  refine List.map_congr_left fun e _ => ?_
  by_cases here : e.1 = name <;> simp [here]

private theorem remove_renamed (ρ : Renaming) (r : Run Name) (name : Name) :
    (r.renamed ρ).remove name = (r.remove name).renamed ρ := by
  simp only [remove, renamed, List.filter_map]
  rfl

/-- Every operation does the same under other numbers. -/
theorem perform_renamed (sound : Sound r.barrier r.blocked) (fits : ρ.Fits r.barrier) (op : Operation Name) :
    (r.renamed ρ).perform op = (r.perform op).renamed ρ := by
  have size : r.barrier.broken = false → r.barrier.outcomes.size = r.barrier.generation := fun unbroken => by
    simpa [unbroken] using sound.settled
  cases op with
  | create name timeout =>
    simp only [perform, create, find?_renamed, Option.isSome_map]
    split
    · rfl
    · simp [renamed, Wait.renamed]
  | poll name =>
    simp only [perform]
    have found' := r.find?_renamed ρ name
    cases found : r.find? name with
    | none => rw [poll_absent found, poll_absent (by rw [found', found]; rfl)]
    | some w =>
      rw [found, Option.map_some] at found'
      have polled' : (r.renamed ρ).barrier.poll (r.renamed ρ).now (w.renamed ρ) = _ := poll_renamed fits size r.now w
      cases polled : (r.barrier.poll r.now w).2.1 with
      | pending w' =>
        have pending : ((r.renamed ρ).barrier.poll (r.renamed ρ).now (w.renamed ρ)).2.1 = .pending (w'.renamed ρ) := by
          rw [polled', polled]
          rfl
        rw [poll_pending found polled, poll_pending found' pending, put_renamed, polled']
        rfl
      | done result =>
        have done : ((r.renamed ρ).barrier.poll (r.renamed ρ).now (w.renamed ρ)).2.1 = .done (result.renamed ρ) := by
          rw [polled', polled]
          rfl
        rw [poll_done found polled, poll_done found' done, remove_renamed, polled']
        simp [renamed, remove]
  | drop name =>
    simp only [perform]
    have found' := r.find?_renamed ρ name
    cases found : r.find? name with
    | none => rw [drop_absent found, drop_absent (by rw [found', found]; rfl)]
    | some w =>
      rw [found, Option.map_some] at found'
      have dropped : (r.renamed ρ).barrier.drop (w.renamed ρ) = _ := drop_renamed fits.injective w
      rw [drop_found found, drop_found found', remove_renamed, dropped]
      rfl
  | advance ms => rfl
  | abort =>
    have aborted : (r.renamed ρ).barrier.abort = _ := abort_renamed ρ r.barrier
    simp only [perform, aborted]
    rfl
  | reset =>
    have reset : (r.renamed ρ).barrier.reset = _ := reset_renamed fits
    simp only [perform, reset]
    rfl

theorem run_renamed (sound : Sound r.barrier r.blocked) (fits : ρ.Fits r.barrier) (ops : List (Operation Name)) :
    (r.renamed ρ).run ops = (r.run ops).renamed ρ := by
  induction ops generalizing r with
  | nil => rfl
  | cons op ops ih =>
    have moves := r.perform_moves sound op
    rw [run_cons, run_cons, perform_renamed sound fits op]
    exact ih (moves.sound sound) (fits.moves moves)

end Run
end Lockstep.Barrier
