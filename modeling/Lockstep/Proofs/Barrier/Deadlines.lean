import Lockstep.Proofs.Barrier.Broken
import Mathlib.Data.List.Induction

/-!
# Deadlines

The time that a wait has begins with its first poll. Once it is over, the next
poll breaks the generation of the wait, unless that is settled already: a poll
looks for the outcome first, and a party that completes its generation is not
asked for its deadline.
-/
namespace Lockstep.Barrier

variable {Name : Type} [DecidableEq Name] {b : Barrier} {blocked : Blocked Name} {name : Name} {w : Wait}

/-- When the wait has waited long enough, if it is polled now. -/
def Wait.deadline (now : Nat) (w : Wait) : Option Nat :=
  match w.arrival with
  | some a => a.deadline
  | none => w.timeout.map (now + ·)

/-- The wait has not arrived, and only one party is missing. -/
def Completes (b : Barrier) (w : Wait) : Prop :=
  w.arrival = none ∧ b.broken = false ∧ b.waiting.length + 1 = b.options.parties

/-- The barrier after a poll of this wait, and what the poll comes to. -/
inductive Verdict (b : Barrier) (now : Nat) (w : Wait) : Barrier → Poll → Prop
  | broken {why} : b.outcome? (w.generation b) = some .broken → why.fault.kind = .barrierBroken →
      Verdict b now w b (.done (.failed why))
  | released {a tickets} : w.arrival = some a → b.outcome? (w.generation b) = some (.released tickets) →
      Verdict b now w b (.done (Outcome.result a (.released tickets)))
  | last : b.Completes w → Verdict b now w b.released (.done (.released b.waiting.length))
  | late {b'} : ¬b.Completes w → b.outcome? (w.generation b) = none → (w.deadline now).any (· ≤ now) = true →
      b'.outcomes = b.outcomes.push .broken → Verdict b now w b' (.done (.failed (.brokenDuring (w.generation b))))
  | early {b' w'} : ¬b.Completes w → b.outcome? (w.generation b) = none → (w.deadline now).any (· ≤ now) = false →
      b'.outcomes = b.outcomes → Verdict b now w b' (.pending w')

omit [DecidableEq Name] in
private theorem Sound.generation_of_unknown (sound : Sound b blocked) (known : blocked name = w.arrival)
    (unknown : b.outcome? (w.generation b) = none) : w.generation b = b.generation ∧ b.broken = false := by
  have begun : w.generation b ≤ b.generation := by
    cases arrival : w.arrival with
    | none => simp [Wait.generation, arrival]
    | some a => simpa [Wait.generation, arrival] using sound.begun (known.trans arrival)
  rcases (sound.outcome?_eq_none_iff _).mp unknown with later | here
  · exact absurd begun (Nat.not_le_of_lt later)
  · exact ⟨here.1.symm, here.2⟩

omit [DecidableEq Name] in
theorem Sound.unknown_of_unbroken (sound : Sound b blocked) (unbroken : b.broken = false) :
    b.outcome? b.generation = none :=
  (sound.outcome?_eq_none_iff _).mpr (.inr ⟨rfl, unbroken⟩)

omit [DecidableEq Name] in
private theorem Sound.unknown_of_completes (sound : Sound b blocked) (completes : b.Completes w) :
    b.outcome? (w.generation b) = none := by
  simpa [Wait.generation, completes.1] using sound.unknown_of_unbroken completes.2.1

omit [DecidableEq Name] in
theorem outcomes_abort (unbroken : b.broken = false) : b.abort.1.outcomes = b.outcomes.push .broken := by
  simp [abort, unbroken]

omit [DecidableEq Name] in
private theorem poll_verdict (sound : Sound b blocked) (known : blocked name = w.arrival) (now : Nat) :
    Verdict b now w (b.poll now w).1 (b.poll now w).2.1 := by
  cases arrival : w.arrival with
  | none =>
    have here : w.generation b = b.generation := by simp [Wait.generation, arrival]
    have time : w.deadline now = w.timeout.map (now + ·) := by simp [Wait.deadline, arrival]
    have arrives : b.poll now w = b.arrive now w := by simp [poll, arrival]
    rw [arrives]
    rcases arrive_cases b now w with ⟨broken, eq⟩ | ⟨unbroken, last, eq⟩ | ⟨unbroken, room, a, rfl, eq⟩
    · rw [eq]
      exact .broken (here ▸ sound.kept broken) rfl
    · rw [eq]
      exact .last ⟨arrival, unbroken, last⟩
    · have open' := sound.unknown_of_unbroken unbroken
      have incomplete : ¬b.Completes w := fun completes => room completes.2.2
      have same : b.joined.outcome? b.generation = none := open'
      rw [eq]
      rcases pollBlocked_cases b.joined now w ⟨b.generation, b.nextTicket, w.timeout.map (now + ·)⟩ with
        ⟨outcome, settled, _⟩ | ⟨_, due, polled⟩ | ⟨_, early, polled⟩
      · rw [same] at settled
        cases settled
      · rw [polled, ← here]
        exact .late incomplete (here ▸ open') (time ▸ due) (outcomes_abort (b := b.joined) unbroken)
      · rw [polled]
        exact .early incomplete (here ▸ open') (time ▸ early) rfl
  | some a =>
    have here : w.generation b = a.generation := by simp [Wait.generation, arrival]
    have time : w.deadline now = a.deadline := by simp [Wait.deadline, arrival]
    have incomplete : ¬b.Completes w := by
      rintro ⟨fresh, _⟩
      simp [arrival] at fresh
    have blocked : b.poll now w = b.pollBlocked now w a := by simp [poll, arrival]
    rw [blocked]
    rcases pollBlocked_cases b now w a with ⟨outcome, settled, polled⟩ | ⟨unknown, due, polled⟩ | ⟨unknown, early, polled⟩
    · rw [polled]
      cases outcome with
      | broken => exact .broken (here ▸ settled) rfl
      | released tickets => exact .released arrival (here ▸ settled)
    · have unbroken := (sound.generation_of_unknown known (here ▸ unknown)).2
      rw [polled, ← here]
      exact .late incomplete (here ▸ unknown) (time ▸ due) (outcomes_abort unbroken)
    · rw [polled]
      exact .early incomplete (here ▸ unknown) (time ▸ early) rfl

omit [DecidableEq Name] in
/-- Of the open generations the only one that can be broken is the current one. -/
private theorem Sound.broken_is_current (sound : Sound b blocked) (unbroken : b.broken = false) {b' : Barrier} {g : Nat}
    (pushed : b'.outcomes = b.outcomes.push .broken) (unknown : b.outcome? g = none)
    (broken : b'.outcome? g = some .broken) : g = b.generation := by
  have size : b.outcomes.size = b.generation := by simpa [unbroken] using sound.settled
  by_contra other
  rw [← size] at other
  simp only [outcome?, pushed, Array.getElem?_push, if_neg other] at broken
  simp only [outcome?] at unknown
  rw [unknown] at broken
  cases broken

omit [DecidableEq Name] in
/-- A poll breaks no generation but that of the wait, and only if the wait is due. -/
private theorem Verdict.late_of_broken {now g : Nat} {b' : Barrier} {p : Poll} (verdict : Verdict b now w b' p)
    (sound : Sound b blocked) (known : blocked name = w.arrival) (unknown : b.outcome? g = none)
    (broken : b'.outcome? g = some .broken) : w.generation b = g ∧ (w.deadline now).any (· ≤ now) = true := by
  cases verdict with
  | broken settled kind => simp [unknown] at broken
  | released arrival settled => simp [unknown] at broken
  | last completes =>
    have size : b.outcomes.size = b.generation := by simpa [completes.2.1] using sound.settled
    simp only [outcome?, Barrier.released, advance, Array.getElem?_push] at broken
    split at broken
    · simp at broken
    · simp only [outcome?] at unknown
      simp [unknown] at broken
  | late incomplete unknown' due pushed =>
    obtain ⟨current, unbroken⟩ := sound.generation_of_unknown known unknown'
    exact ⟨current.trans (sound.broken_is_current unbroken pushed unknown broken).symm, due⟩
  | early incomplete unknown' undue same =>
    simp only [outcome?, same] at unknown broken
    simp [unknown] at broken

omit [DecidableEq Name] in
/-- Giving up a wait breaks no generation but that in which it arrived, and only if the policy says so. -/
private theorem drop_breaks {g : Nat} (sound : Sound b blocked) (unknown : b.outcome? g = none)
    (broken : (b.drop w).1.outcome? g = some .broken) :
    ∃ a, w.arrival = some a ∧ a.generation = g ∧ b.options.policy = .breakGeneration := by
  cases arrival : w.arrival with
  | none => simp [drop, arrival, unknown] at broken
  | some a =>
    simp only [drop, arrival] at broken
    by_cases past : b.generation ≠ a.generation ∨ b.broken = true
    · simp [leave_past past, unknown] at broken
    · cases policy : b.options.policy with
      | withdraw =>
        rw [leave_withdraw past policy] at broken
        simp only [outcome?, withdrawn] at unknown broken
        simp [unknown] at broken
      | breakGeneration =>
        rw [leave_break past policy] at broken
        have here : b.generation = a.generation ∧ b.broken = false := by simpa using past
        have current := sound.broken_is_current here.2 (outcomes_abort here.2) unknown broken
        exact ⟨a, rfl, here.1.symm.trans current.symm, rfl⟩

namespace Run

variable {start r : Run Name} {ops : List (Operation Name)} {timeout : Option Nat} {time g : Nat}

/-- The wait is unfinished all through these operations. -/
def Lasts (r : Run Name) (name : Name) (ops : List (Operation Name)) : Prop :=
  ∀ part, part <+: ops → ((r.run part).find? name).isSome

/-- The wait is unfinished, and was polled for the first time at this time, when this generation was the current one. -/
def FirstPolled (start : Run Name) (name : Name) (timeout : Option Nat) (ops : List (Operation Name))
    (time g : Nat) : Prop :=
  ∃ earlier later, ops = earlier ++ .poll name :: later ∧ (start.run earlier).find? name = some { timeout } ∧
    ((start.run earlier).perform (.poll name)).Lasts name later ∧
    (start.run earlier).now = time ∧ (start.run earlier).barrier.generation = g

/-- The wait is unfinished, and its first poll was at this time, or will be if it is polled next. -/
inductive Begins (start : Run Name) (name : Name) (timeout : Option Nat) (ops : List (Operation Name)) :
    Nat → Nat → Prop
  | before {time g : Nat} : start.FirstPolled name timeout ops time g → Begins start name timeout ops time g
  | now : (start.run ops).find? name = some { timeout } →
      Begins start name timeout ops (start.run ops).now (start.run ops).barrier.generation

private theorem Lasts.concat {op : Operation Name} (lasts : r.Lasts name ops)
    (still : ((r.run (ops ++ [op])).find? name).isSome) : r.Lasts name (ops ++ [op]) := by
  intro part initial
  rcases List.prefix_concat_iff.mp initial with rfl | initial
  · exact still
  · exact lasts part initial

private theorem Lasts.of_concat {op : Operation Name} (lasts : r.Lasts name (ops ++ [op])) : r.Lasts name ops :=
  fun part initial => lasts part (initial.trans (List.prefix_append ops [op]))

omit [DecidableEq Name] in
/-- A wait that is blocked by its first poll has its deadline from the time of that poll. -/
private theorem pending_first {now : Nat} {w' : Wait} (pending : (b.poll now { timeout }).2.1 = .pending w') :
    w' = { timeout, arrival := some ⟨b.generation, b.nextTicket, timeout.map (now + ·)⟩ } := by
  simp only [Barrier.poll] at pending
  rcases arrive_cases b now { timeout } with ⟨_, eq⟩ | ⟨_, _, eq⟩ | ⟨_, _, a, rfl, eq⟩
  · simp [eq] at pending
  · simp [eq] at pending
  · rw [eq] at pending
    rcases pollBlocked_cases b.joined now { timeout } ⟨b.generation, b.nextTicket, timeout.map (now + ·)⟩ with
      ⟨_, _, polled⟩ | ⟨_, _, polled⟩ | ⟨_, _, polled⟩
    · simp [polled] at pending
    · simp [polled] at pending
    · simp only [polled, Poll.pending.injEq] at pending
      exact pending.symm

private theorem find?_poll_pending (found : r.find? name = some w) {w' : Wait}
    (pending : (r.barrier.poll r.now w).2.1 = .pending w') : (r.perform (.poll name)).find? name = some w' := by
  rw [perform, poll_pending found pending]
  exact (r.find?_put name name w').trans (by simp [found])

private theorem find?_poll_done (found : r.find? name = some w) {result : Result}
    (done : (r.barrier.poll r.now w).2.1 = .done result) : (r.perform (.poll name)).find? name = none := by
  rw [perform, poll_done found done]
  exact (r.find?_remove name name).trans (if_pos rfl)

private theorem find?_drop (r : Run Name) (name : Name) : (r.perform (.drop name)).find? name = none := by
  rw [perform]
  cases found : r.find? name with
  | none => rw [drop_absent found, found]
  | some w =>
    rw [drop_found found]
    exact (r.find?_remove name name).trans (if_pos rfl)

/-- A wait that has arrived is the same for as long as it is unfinished. -/
private theorem Distinct.same_of_arrived (distinct : r.Distinct) (found : r.find? name = some w)
    (arrived : w.arrival.isSome) {op : Operation Name} (still : ((r.perform op).find? name).isSome) :
    (r.perform op).find? name = some w := by
  by_cases about : op.name? = some name
  · rcases Operation.name?_eq_some about with ⟨timeout, rfl⟩ | rfl | rfl
    · rw [Run.perform, create_found found, found]
    · have started : r.Started name := fun w' found' => by rwa [Option.some.inj (found'.symm.trans found)]
      rcases (distinct.polled started).same_or_finish with same | ⟨_, _, _, finished⟩
      · rw [Run.perform, same, found]
      · rw [Run.perform, finished, find?_finish] at still
        simp at still
    · rw [find?_drop] at still
      cases still
  · rw [find?_perform about, found]

private theorem Distinct.same_of_lasts (distinct : r.Distinct) (found : r.find? name = some w)
    (arrived : w.arrival.isSome) (lasts : r.Lasts name ops) : (r.run ops).find? name = some w := by
  induction ops using List.reverseRecOn with
  | nil => exact found
  | append_singleton ops op ih =>
    have still := lasts _ (List.prefix_refl _)
    rw [run_append, run_cons, run_nil] at still ⊢
    exact (distinct.run ops).same_of_arrived (ih lasts.of_concat) arrived still

private theorem FirstPolled.wait (distinct : start.Distinct) (first : start.FirstPolled name timeout ops time g) :
    ∃ a, (start.run ops).find? name = some { timeout, arrival := some a } ∧ a.generation = g ∧
      a.deadline = timeout.map (time + ·) := by
  obtain ⟨earlier, later, rfl, fresh, lasts, rfl, rfl⟩ := first
  have still := lasts [] List.nil_prefix
  cases polled : ((start.run earlier).barrier.poll (start.run earlier).now { timeout }).2.1 with
  | done result =>
    rw [run_nil, find?_poll_done fresh polled] at still
    cases still
  | pending w' =>
    have found := find?_poll_pending fresh polled
    rw [pending_first polled] at found
    rw [run_append, run_cons]
    exact ⟨_, ((distinct.run earlier).perform (.poll name)).same_of_lasts found rfl lasts, rfl, rfl⟩

private theorem Begins.wait (distinct : start.Distinct) (begins : start.Begins name timeout ops time g) :
    ∃ w, (start.run ops).find? name = some w ∧ w.timeout = timeout ∧ w.generation (start.run ops).barrier = g ∧
      w.deadline (start.run ops).now = timeout.map (time + ·) := by
  cases begins with
  | before first =>
    obtain ⟨a, found, generation, deadline⟩ := first.wait distinct
    exact ⟨_, found, rfl, generation, deadline⟩
  | now fresh => exact ⟨_, fresh, rfl, rfl, rfl⟩

private theorem FirstPolled.concat {op : Operation Name} (first : start.FirstPolled name timeout ops time g)
    (still : ((start.run (ops ++ [op])).find? name).isSome) :
    start.FirstPolled name timeout (ops ++ [op]) time g := by
  obtain ⟨earlier, later, rfl, fresh, lasts, now, current⟩ := first
  refine ⟨earlier, later ++ [op], by simp, fresh, lasts.concat ?_, now, current⟩
  simpa [run_append] using still

private theorem Begins.poll (begins : start.Begins name timeout ops time g)
    (still : ((start.run (ops ++ [.poll name])).find? name).isSome) :
    start.FirstPolled name timeout (ops ++ [.poll name]) time g := by
  cases begins with
  | before first => exact first.concat still
  | now fresh =>
    refine ⟨ops, [], rfl, fresh, fun part initial => ?_, rfl, rfl⟩
    rw [List.prefix_nil.mp initial, run_nil]
    rwa [run_append, run_cons, run_nil] at still

/-- Whoever has arrived was unfinished before, and if it had not arrived then, it was polled. -/
private theorem arrived_of_perform {op : Operation Name} (found : (r.perform op).find? name = some w)
    (arrived : w.arrival.isSome) : ∃ w', r.find? name = some w' ∧
      (w'.arrival.isSome ∨ (op = .poll name ∧ w' = { timeout := w.timeout })) := by
  by_cases about : op.name? = some name
  · rcases Operation.name?_eq_some about with ⟨timeout, rfl⟩ | rfl | rfl
    · simp only [perform, find?_create, true_and] at found
      split at found
      · cases found
        cases arrived
      · exact ⟨w, found, .inl arrived⟩
    · cases before : r.find? name with
      | none => simp [perform, poll_absent before, before] at found
      | some w' =>
        refine ⟨w', rfl, ?_⟩
        cases arrival : w'.arrival with
        | some a => exact .inl rfl
        | none =>
          cases polled : (r.barrier.poll r.now w').2.1 with
          | done result => simp [find?_poll_done before polled] at found
          | pending w'' =>
            rw [find?_poll_pending before polled, Option.some.injEq] at found
            refine .inr ⟨rfl, ?_⟩
            rw [← found, timeout_of_pending polled, ← arrival]
    · rw [find?_drop] at found
      cases found
  · rw [find?_perform about] at found
    exact ⟨w, found, .inl arrived⟩

private theorem firstPolled_of_found (distinct : start.Distinct) (empty : start.waits = [])
    (found : (start.run ops).find? name = some w) (arrived : w.arrival.isSome) :
    ∃ time g, start.FirstPolled name w.timeout ops time g := by
  induction ops using List.reverseRecOn generalizing w with
  | nil => simp [find?, empty] at found
  | append_singleton ops op ih =>
    have still : ((start.run (ops ++ [op])).find? name).isSome := by simp [found]
    rw [run_append, run_cons, run_nil] at found
    obtain ⟨w', before, arrived' | ⟨rfl, rfl⟩⟩ := arrived_of_perform found arrived
    · have kept : (((start.run ops).perform op).find? name).isSome := by simp [found]
      have same := (distinct.run ops).same_of_arrived before arrived' kept
      obtain rfl := Option.some.inj (found.symm.trans same)
      obtain ⟨time, g, first⟩ := ih before arrived
      exact ⟨time, g, first.concat still⟩
    · exact ⟨_, _, (Begins.now before).poll still⟩

private theorem begins_of_found (distinct : start.Distinct) (empty : start.waits = [])
    (found : (start.run ops).find? name = some w) : ∃ time g, start.Begins name w.timeout ops time g := by
  cases arrival : w.arrival with
  | some a =>
    obtain ⟨time, g, first⟩ := firstPolled_of_found distinct empty found (by simp [arrival])
    exact ⟨time, g, .before first⟩
  | none => exact ⟨_, _, .now (by rw [found, ← arrival])⟩

/-- The wait finishes with this result when it is polled. -/
structure Finishes (r : Run Name) (name : Name) (result : Result) : Prop where
  told : (r.perform (.poll name)).results = r.results ++ [(name, result)]
  gone : (r.perform (.poll name)).find? name = none

/-- In the run of these operations, what polling the wait comes to that belongs to this generation and has had its
    time since this moment. -/
structure KeepsTime (start : Run Name) (ops : List (Operation Name)) (name : Name) (timeout : Option Nat)
    (time g : Nat) : Prop where
  /-- A release comes before the deadline, even if the wait is polled only after it. -/
  released : ∀ tickets, (start.run ops).barrier.outcome? g = some (.released tickets) →
    ∃ parties i, start.Releases ops g parties ∧ parties[i]? = some name ∧ (start.run ops).Finishes name (.released i)
  /-- The last party is not asked for its deadline. -/
  last : (∃ w, (start.run ops).find? name = some w ∧ (start.run ops).barrier.Completes w) →
    ∃ parties, start.Releases (ops ++ [.poll name]) g parties ∧
      parties[start.barrier.options.parties - 1]? = some name ∧
      (start.run ops).Finishes name (.released (start.barrier.options.parties - 1))
  broken : (start.run ops).barrier.outcome? g = some .broken →
    ∃ why, why.fault.kind = .barrierBroken ∧ (start.run ops).Finishes name (.failed why)
  /-- When its time is over, the wait breaks the generation, for every party of it. -/
  late : (start.run ops).barrier.outcome? g = none →
    (∀ w, (start.run ops).find? name = some w → ¬(start.run ops).barrier.Completes w) →
    (∃ t, timeout = some t ∧ time + t ≤ (start.run ops).now) →
    (start.run ops).Finishes name (.failed (.brokenDuring g)) ∧ ∀ more, start.Fails (ops ++ .poll name :: more) g ∧
      (start.run (ops ++ .poll name :: more)).barrier.outcome? g = some .broken
  /-- Before that the wait stays, and so does the generation. -/
  early : (start.run ops).barrier.outcome? g = none →
    (∀ w, (start.run ops).find? name = some w → ¬(start.run ops).barrier.Completes w) →
    (∀ t, timeout = some t → (start.run ops).now < time + t) →
    start.FirstPolled name timeout (ops ++ [.poll name]) time g ∧
      (start.run (ops ++ [.poll name])).barrier.outcome? g = none

/-- What breaks a generation: it is told to break, or one of its parties goes away, or is polled when it is due. -/
inductive Breaks (start : Run Name) (ops : List (Operation Name)) (g : Nat) : Operation Name → Prop
  | abort : Breaks start ops g .abort
  | reset : Breaks start ops g .reset
  | gone {name a} : (start.run ops).blocked name = some a → a.generation = g →
      start.barrier.options.policy = .breakGeneration → Breaks start ops g (.drop name)
  | due {name t time} : start.Begins name (some t) ops time g → time + t ≤ (start.run ops).now →
      Breaks start ops g (.poll name)

private theorem finishes_of_done (found : r.find? name = some w) {result : Result}
    (done : (r.barrier.poll r.now w).2.1 = .done result) : r.Finishes name result := by
  refine ⟨?_, find?_poll_done found done⟩
  rw [perform, poll_done found done]

private theorem history_append (r : Run Name) (before after : List (Operation Name)) :
    r.history (before ++ after) = r.history before ++ (r.run before).history after := by
  induction before generalizing r with
  | nil => rfl
  | cons op before ih => simp [ih, List.append_assoc]

/-- The party that completes a generation is the last of those released. -/
private theorem releases_of_last {o : Options} (positive : 0 < o.parties) (ops : List (Operation Name)) :
    let start : Run Name := { barrier := { options := o } }
    (start.run ops).find? name = some w → (start.run ops).barrier.Completes w →
    ∃ parties, start.Releases (ops ++ [.poll name]) (start.run ops).barrier.generation parties ∧
      parties[o.parties - 1]? = some name ∧ (start.run ops).Finishes name (.released (o.parties - 1)) := by
  intro start found completes
  obtain ⟨first, unbroken, complete⟩ := completes
  obtain ⟨sound, options, _⟩ : Sound (start.run ops).barrier (start.run ops).blocked ∧
      (start.run ops).barrier.options = o ∧ _ := story_of_run positive ops
  obtain ⟨shows, results⟩ := poll_last found first unbroken complete
  have index : (start.run ops).barrier.waiting.length = o.parties - 1 := by
    rw [options] at complete
    omega
  have polled : (start.run ops).barrier.poll (start.run ops).now w = ((start.run ops).barrier.released,
      .done (.released (o.parties - 1)), { releases := 1 }) := by
    rcases arrive_cases (start.run ops).barrier (start.run ops).now w with ⟨broken, _⟩ | ⟨_, _, eq⟩ | ⟨_, room, _⟩
    · rw [unbroken] at broken
      cases broken
    · rw [Barrier.poll, first]
      exact index ▸ eq
    · exact absurd complete room
  have settled : (start.run (ops ++ [.poll name])).barrier.outcome? (start.run ops).barrier.generation =
      some (.released ((start.run ops).barrier.waiting ++ [(start.run ops).barrier.nextTicket])) := by
    rw [run_append, run_cons, run_nil, perform, ((start.run ops).poll_eq found).1, polled]
    exact outcome?_released (by simpa [unbroken] using sound.settled)
  obtain ⟨_, _, stories⟩ := story_of_run positive (ops ++ [.poll name])
  obtain ⟨parties, freed⟩ := (stories _).freed settled
  have releases := releases_of_freed positive _ settled freed
  have shown : .returned name (start.run ops).barrier.generation (.released (o.parties - 1)) ∈
      start.history (ops ++ [.poll name]) := by
    rw [history_append, history_cons, shows, index]
    simp
  obtain ⟨i, place, same⟩ := releases.told _ _ shown
  obtain rfl : o.parties - 1 = i := by simpa using same
  exact ⟨parties, releases, place, finishes_of_done found (by rw [polled])⟩

private theorem keepsTime_of_begins {o : Options} (positive : 0 < o.parties) (ops : List (Operation Name)) :
    let start : Run Name := { barrier := { options := o } }
    start.Begins name timeout ops time g → start.KeepsTime ops name timeout time g := by
  intro start begins
  have distinct : start.Distinct := .nil
  obtain ⟨sound, _, stories⟩ : Sound (start.run ops).barrier (start.run ops).blocked ∧
      (start.run ops).barrier.options = o ∧ _ := story_of_run positive ops
  obtain ⟨w, found, rfl, rfl, deadline⟩ := begins.wait distinct
  have known : (start.run ops).blocked name = w.arrival := by simp [Run.blocked, found]
  have itself : ∀ {w'}, (start.run ops).find? name = some w' → w' = w :=
    fun found' => Option.some.inj (found'.symm.trans found)
  have polled : (start.run (ops ++ [.poll name])).barrier =
      ((start.run ops).barrier.poll (start.run ops).now w).1 := by
    rw [run_append]
    exact ((start.run ops).poll_eq found).1
  have verdict := poll_verdict sound known (start.run ops).now
  generalize ((start.run ops).barrier.poll (start.run ops).now w).1 = b' at verdict polled
  generalize told : ((start.run ops).barrier.poll (start.run ops).now w).2.1 = p at verdict
  -- What is said of the other cases does not apply to the one of the verdict.
  cases verdict with
  | broken settled kind =>
    exact {
      released := fun tickets settled' => by simp [settled] at settled'
      last := by
        rintro ⟨w', found', completes⟩
        have unknown := sound.unknown_of_completes (itself found' ▸ completes)
        simp [settled] at unknown
      broken := fun _ => ⟨_, kind, finishes_of_done found told⟩
      late := fun unknown => by simp [settled] at unknown
      early := fun unknown => by simp [settled] at unknown }
  | @released a tickets arrival settled =>
    have here : a.generation = w.generation (start.run ops).barrier := by simp [Wait.generation, arrival]
    obtain ⟨parties, freed⟩ := (stories _).freed settled
    have releases := releases_of_freed positive ops settled freed
    obtain ⟨i, place, result⟩ := releases.owed name w a found arrival here
    exact {
      released := fun _ _ => ⟨parties, i, releases, place, result, find?_poll_done found told⟩
      last := by
        rintro ⟨w', found', completes⟩
        have unknown := sound.unknown_of_completes (itself found' ▸ completes)
        simp [settled] at unknown
      broken := fun settled' => by simp [settled] at settled'
      late := fun unknown => by simp [settled] at unknown
      early := fun unknown => by simp [settled] at unknown }
  | last completes =>
    have unknown := sound.unknown_of_completes completes
    have here : w.generation (start.run ops).barrier = (start.run ops).barrier.generation := by
      simp [Wait.generation, completes.1]
    exact {
      released := fun _ settled' => by simp [unknown] at settled'
      last := fun _ => here ▸ releases_of_last positive ops found completes
      broken := fun settled' => by simp [unknown] at settled'
      late := fun _ incomplete => absurd completes (incomplete w found)
      early := fun _ incomplete => absurd completes (incomplete w found) }
  | late incomplete unknown due pushed =>
    obtain ⟨current, unbroken⟩ := sound.generation_of_unknown known unknown
    have size : (start.run ops).barrier.outcomes.size = w.generation (start.run ops).barrier := by
      simpa [unbroken, current] using sound.settled
    have settled : (start.run (ops ++ [.poll name])).barrier.outcome? (w.generation (start.run ops).barrier) =
        some .broken := by
      simp [polled, outcome?, pushed, ← size]
    exact {
      released := fun _ settled' => by simp [unknown] at settled'
      last := by
        rintro ⟨w', found', completes⟩
        exact absurd (itself found' ▸ completes) incomplete
      broken := fun settled' => by simp [unknown] at settled'
      late := fun _ _ _ => ⟨finishes_of_done found told, fun more => by
        rw [List.append_cons]
        exact (fails_of_broken positive _ settled more).symm⟩
      early := fun _ _ undue => by
        rw [deadline] at due
        simp only [Option.any_map, Option.any_eq_true, decide_eq_true_eq] at due
        obtain ⟨t, given, late⟩ := due
        exact absurd late (Nat.not_le_of_lt (undue t given)) }
  | early incomplete unknown undue same =>
    exact {
      released := fun _ settled' => by simp [unknown] at settled'
      last := by
        rintro ⟨w', found', completes⟩
        exact absurd (itself found' ▸ completes) incomplete
      broken := fun settled' => by simp [unknown] at settled'
      late := by
        rintro _ _ ⟨t, given, late⟩
        simp [deadline, given, late] at undue
      early := fun _ _ _ => by
        have found' := find?_poll_pending found told
        refine ⟨begins.poll ?_, by simpa [polled, outcome?, same] using unknown⟩
        rw [run_append, run_cons, run_nil, found']
        rfl }

/-- Nothing else breaks a generation. -/
private theorem breaks_of_broken {o : Options} (positive : 0 < o.parties) (ops : List (Operation Name))
    (op : Operation Name) : let start : Run Name := { barrier := { options := o } }
    (start.run ops).barrier.outcome? g = none → ((start.run ops).perform op).barrier.outcome? g = some .broken →
    start.Breaks ops g op := by
  intro start unknown broken
  have distinct : start.Distinct := .nil
  obtain ⟨sound, options, _⟩ : Sound (start.run ops).barrier (start.run ops).blocked ∧
      (start.run ops).barrier.options = o ∧ _ := story_of_run positive ops
  have untouched : ∀ {p : Prop}, ((start.run ops).perform op).barrier.outcomes = (start.run ops).barrier.outcomes → p :=
    fun same => by simp [outcome?, same, show (start.run ops).barrier.outcomes[g]? = none from unknown] at broken
  cases op with
  | create name timeout =>
    refine untouched ?_
    simp only [perform, create]
    split <;> rfl
  | advance ms => exact untouched rfl
  | abort => exact .abort
  | reset => exact .reset
  | drop name =>
    cases found : (start.run ops).find? name with
    | none => exact untouched (by rw [perform, drop_absent found])
    | some w =>
      rw [perform, ((start.run ops).drop_eq found).1] at broken
      obtain ⟨a, arrival, here, policy⟩ := drop_breaks sound unknown broken
      exact .gone (by simp [Run.blocked, found, arrival]) here (by rw [← policy, options])
  | poll name =>
    cases found : (start.run ops).find? name with
    | none => exact untouched (by rw [perform, poll_absent found])
    | some w =>
      have known : (start.run ops).blocked name = w.arrival := by simp [Run.blocked, found]
      have verdict := poll_verdict sound known (start.run ops).now
      rw [perform, ((start.run ops).poll_eq found).1] at broken
      obtain ⟨rfl, due⟩ := verdict.late_of_broken sound known unknown broken
      obtain ⟨time, g, begins⟩ := begins_of_found distinct rfl found
      obtain ⟨w', found', _, rfl, deadline⟩ := begins.wait distinct
      obtain rfl := Option.some.inj (found'.symm.trans found)
      simp only [deadline, Option.any_map, Option.any_eq_true, decide_eq_true_eq] at due
      obtain ⟨t, given, late⟩ := due
      exact .due (given ▸ begins) late

private theorem early_of_atRest (distinct : start.Distinct) (rest : (start.run ops).AtRest) {t : Nat}
    (first : start.FirstPolled name (some t) ops time g) : (start.run ops).now < time + t := by
  obtain ⟨a, found, _, deadline⟩ := first.wait distinct
  have arrived : (start.run ops).blocked name = some a := by simp [Run.blocked, found]
  have early := ((distinct.run ops).atRest_iff.mp rest name a arrived).2
  simpa [deadline] using early

end Run

/-- A wait breaks its generation, for every party of it, if it is polled when its time is over, and not before. A
    generation that was released is told all the same, and the last party is not late for it. Where nobody finishes
    any more no blocked wait is due. -/
theorem deadlines_exact {o : Options} {b : Barrier} (made : new? o = some b) (ops : List (Operation Name)) :
    let start : Run Name := { barrier := b }
    let r := start.run ops
    (∀ name w, r.find? name = some w → ∃ time g, start.Begins name w.timeout ops time g) ∧
    (∀ name timeout time g, start.Begins name timeout ops time g → start.KeepsTime ops name timeout time g) ∧
    (∀ op g, r.barrier.outcome? g = none → (r.perform op).barrier.outcome? g = some .broken →
      start.Breaks ops g op) ∧
    (r.AtRest → ∀ name t time g, start.FirstPolled name (some t) ops time g → r.now < time + t) := by
  intro start r
  obtain ⟨positive, rfl⟩ := new?_eq_some made
  have distinct : start.Distinct := .nil
  refine ⟨?_, ?_, ?_, ?_⟩
  · intro name w found
    exact Run.begins_of_found distinct rfl found
  · intro name timeout time g begins
    exact Run.keepsTime_of_begins positive ops begins
  · intro op g unknown broken
    exact Run.breaks_of_broken positive ops op unknown broken
  · intro rest name t time g first
    exact Run.early_of_atRest distinct rest first

/-- Two of three parties are blocked, the first of them for five milliseconds at most. -/
def twoOfThreeBlocked : List (Operation (Fin 5)) :=
  [.create 0 (some 5), .create 1 none, .poll 0, .advance 2, .poll 1]

theorem deadlines_exact_overdue :
    let start : Run (Fin 5) := { barrier := { options := ⟨3, .breakGeneration⟩ } }
    let overdue := twoOfThreeBlocked ++ [.advance 3]
    new? ⟨3, .breakGeneration⟩ = some start.barrier ∧
      (start.run twoOfThreeBlocked).AtRest ∧ (start.run twoOfThreeBlocked).now < 0 + 5 ∧
      start.FirstPolled 0 (some 5) overdue 0 0 ∧ start.Breaks overdue 0 (.poll 0) ∧
      start.Fails (overdue ++ [.poll 0, .poll 1]) 0 := by
  intro start overdue
  have made : start.Begins 0 (some 5) [.create 0 (some 5), .create 1 none] 0 0 := .now (by decide)
  have polled := made.poll (by decide)
  have before : start.FirstPolled 0 (some 5) twoOfThreeBlocked 0 0 := (polled.concat (by decide)).concat (by decide)
  have after : start.FirstPolled 0 (some 5) overdue 0 0 := before.concat (by decide)
  have rest : (start.run twoOfThreeBlocked).AtRest := by
    unfold Run.AtRest
    decide
  obtain ⟨_, _, _, early⟩ := deadlines_exact (o := ⟨3, .breakGeneration⟩) rfl twoOfThreeBlocked
  obtain ⟨_, keeps, breaks, _⟩ := deadlines_exact (o := ⟨3, .breakGeneration⟩) rfl overdue
  have incomplete : ∀ w, (start.run overdue).find? 0 = some w → ¬(start.run overdue).barrier.Completes w := by
    rintro w found ⟨first, -, -⟩
    have arrived : (start.run overdue).blocked 0 ≠ none := by decide
    exact arrived (by simp [Run.blocked, found, first])
  have late := (keeps 0 _ 0 0 (.before after)).late (by decide) incomplete ⟨5, rfl, by decide⟩
  exact ⟨rfl, rest, early rest _ _ _ _ before, after, breaks _ _ (by decide) (by decide), (late.2 [.poll 1]).1⟩

end Lockstep.Barrier
