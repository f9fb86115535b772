import Lockstep.Proofs.Barrier.Sound

namespace Lockstep.Barrier

variable {Name : Type} [DecidableEq Name]

/-- Whether a wait is still blocked after a poll, and how. -/
def Poll.arrival : Poll → Option Arrival
  | .pending w => w.arrival
  | .done _ => none

theorem abort_of_broken {b : Barrier} (broken : b.broken = true) : b.abort = (b, {}) := by
  simp [abort, broken]

@[simp] theorem broken_abort (b : Barrier) : b.abort.1.broken = true := by
  cases broken : b.broken <;> simp [abort, broken]

@[simp] theorem generation_abort (b : Barrier) : b.abort.1.generation = b.generation := by
  cases broken : b.broken <;> simp [abort, broken]

theorem leave_past {b : Barrier} {a : Arrival} (past : b.generation ≠ a.generation ∨ b.broken = true) :
    b.leave a = (b, {}) := by
  rw [leave, if_pos past]

theorem leave_break {b : Barrier} {a : Arrival} (here : ¬(b.generation ≠ a.generation ∨ b.broken = true))
    (policy : b.options.policy = .breakGeneration) : b.leave a = b.abort := by
  rw [leave, if_neg here, policy]

theorem leave_withdraw {b : Barrier} {a : Arrival} (here : ¬(b.generation ≠ a.generation ∨ b.broken = true))
    (policy : b.options.policy = .withdraw) : b.leave a = (b.withdrawn a.ticket, {}) := by
  rw [leave, if_neg here, policy]
  rfl

theorem outcome?_abort_of_size {b : Barrier} (size : b.outcomes.size = b.generation) (unbroken : b.broken = false) :
    b.abort.1.outcome? b.generation = some .broken := by
  simp [abort, unbroken, outcome?, ← size]

omit [DecidableEq Name] in
theorem outcome?_abort {b : Barrier} {blocked : Blocked Name} (sound : Sound b blocked) (unbroken : b.broken = false) :
    b.abort.1.outcome? b.generation = some .broken :=
  outcome?_abort_of_size (by simpa [unbroken] using sound.settled) unbroken

theorem outcome?_released {b : Barrier} (size : b.outcomes.size = b.generation) :
    b.released.outcome? b.generation = some (.released (b.waiting ++ [b.nextTicket])) := by
  simp [released, advance, outcome?, ← size]

/-- A blocked party finds the outcome of its generation, or breaks it because its time is over, or stays. -/
theorem pollBlocked_cases (b : Barrier) (now : Nat) (w : Wait) (a : Arrival) :
    (∃ outcome, b.outcome? a.generation = some outcome ∧
      b.pollBlocked now w a = (b, .done (outcome.result a), { waiting := -1 })) ∨
    (b.outcome? a.generation = none ∧ a.deadline.any (· ≤ now) = true ∧
      b.pollBlocked now w a =
        (b.abort.1, .done (.failed (.brokenDuring a.generation)), b.abort.2 + { waiting := -1 })) ∨
    (b.outcome? a.generation = none ∧ a.deadline.any (· ≤ now) = false ∧
      b.pollBlocked now w a = (b, .pending { w with arrival := some a }, {})) := by
  unfold pollBlocked
  cases known : b.outcome? a.generation with
  | some outcome => exact .inl ⟨outcome, rfl, rfl⟩
  | none =>
    cases due : a.deadline.any (· ≤ now) with
    | true => exact .inr (.inl ⟨rfl, rfl, rfl⟩)
    | false => exact .inr (.inr ⟨rfl, rfl, rfl⟩)

/-- A blocked party whose generation has an outcome is told what that is to it. -/
theorem poll_of_outcome {b : Barrier} {w : Wait} {a : Arrival} {outcome : Outcome} (arrived : w.arrival = some a)
    (known : b.outcome? a.generation = some outcome) (now : Nat) :
    b.poll now w = (b, .done (outcome.result a), { waiting := -1 }) := by
  simp [poll, arrived, pollBlocked, known]

/-- What polling a blocked party shows. -/
def blockedEvents (name : Name) (a : Arrival) : Poll → List (Event Name)
  | .pending _ => []
  | .done result => [.returned name a.generation result]

private theorem pollBlocked_moves {b : Barrier} {blocked : Blocked Name} (sound : Sound b blocked) {name : Name}
    {a : Arrival} (arrived : blocked name = some a) (now : Nat) (w : Wait) :
    Moves b blocked (blockedEvents name a (b.pollBlocked now w a).2.1) (b.pollBlocked now w a).1
      (Function.update blocked name (b.pollBlocked now w a).2.1.arrival) := by
  rcases pollBlocked_cases b now w a with ⟨outcome, known, polled⟩ | ⟨unknown, due, polled⟩ | ⟨unknown, early, polled⟩
  · rw [polled]
    exact (Move.conclude arrived known).moves
  · rw [polled]
    have here := sound.current_of_unknown arrived unknown
    have known : b.abort.1.outcome? a.generation = some .broken := by
      rw [← here.1]
      exact outcome?_abort sound here.2
    exact (Move.abort here.2).then (.conclude arrived known)
  · rw [polled]
    have same : Function.update blocked name (some a) = blocked := by
      rw [← arrived]
      exact Function.update_eq_self name blocked
    simpa [blockedEvents, Poll.arrival, same] using Moves.none b blocked

/-- A party that arrives is refused by a broken generation, releases it as the last one, or is blocked and looks
    at once whether its time is over. -/
theorem arrive_cases (b : Barrier) (now : Nat) (w : Wait) :
    (b.broken = true ∧ b.arrive now w = (b, .done (.failed (.brokenBefore b.generation)), {})) ∨
    (b.broken = false ∧ b.waiting.length + 1 = b.options.parties ∧
      b.arrive now w = (b.released, .done (.released b.waiting.length), { releases := 1 })) ∨
    (b.broken = false ∧ b.waiting.length + 1 ≠ b.options.parties ∧ ∃ a : Arrival,
      a = ⟨b.generation, b.nextTicket, w.timeout.map (now + ·)⟩ ∧
      b.arrive now w = ((b.joined.pollBlocked now w a).1, (b.joined.pollBlocked now w a).2.1,
        { waiting := 1 } + (b.joined.pollBlocked now w a).2.2)) := by
  unfold arrive
  by_cases broken : b.broken = true
  · exact .inl ⟨broken, by simp [broken]⟩
  · by_cases last : b.waiting.length + 1 = b.options.parties
    · exact .inr (.inl ⟨by simpa using broken, last, by simp [broken, last, released]⟩)
    · exact .inr (.inr ⟨by simpa using broken, last, _, rfl, by simp [broken, last, joined]⟩)

/-- A wait that is still open after a poll has arrived, and is the same otherwise. -/
private theorem pending_eq {b : Barrier} {now : Nat} {w w' : Wait} (polled : (b.poll now w).2.1 = .pending w') :
    ∃ a, w' = { w with arrival := some a } := by
  have blocked : ∀ (b : Barrier) a, (b.pollBlocked now w a).2.1 = .pending w' → ∃ a, w' = { w with arrival := some a } := by
    intro b a pending
    rcases pollBlocked_cases b now w a with ⟨_, _, eq⟩ | ⟨_, _, eq⟩ | ⟨_, _, eq⟩
    · simp [eq] at pending
    · simp [eq] at pending
    · simp only [eq, Poll.pending.injEq] at pending
      exact ⟨a, pending.symm⟩
  cases arrival : w.arrival with
  | some a => exact blocked b a (by simpa [poll, arrival] using polled)
  | none =>
    simp only [poll, arrival] at polled
    rcases arrive_cases b now w with ⟨_, eq⟩ | ⟨_, _, eq⟩ | ⟨_, _, a, _, eq⟩
    · simp [eq] at polled
    · simp [eq] at polled
    · rw [eq] at polled
      exact blocked _ a polled

theorem arrival_of_pending {b : Barrier} {now : Nat} {w w' : Wait} (polled : (b.poll now w).2.1 = .pending w') :
    ∃ a, w'.arrival = some a := by
  obtain ⟨a, rfl⟩ := pending_eq polled
  exact ⟨a, rfl⟩

theorem timeout_of_pending {b : Barrier} {now : Nat} {w w' : Wait} (polled : (b.poll now w).2.1 = .pending w') :
    w'.timeout = w.timeout := by
  obtain ⟨a, rfl⟩ := pending_eq polled
  rfl

theorem poll_unchanged {b : Barrier} {now : Nat} {w : Wait} (polled : (b.poll now w).2.1 = .pending w) :
    (b.poll now w).1 = b := by
  obtain ⟨a, arrived⟩ := arrival_of_pending polled
  have blocked : b.poll now w = b.pollBlocked now w a := by simp [poll, arrived]
  rw [blocked] at polled ⊢
  rcases pollBlocked_cases b now w a with ⟨_, _, eq⟩ | ⟨_, _, eq⟩ | ⟨_, _, eq⟩
  · rw [eq]
  · rw [eq] at polled
    cases polled
  · rw [eq]

private theorem arrive_moves {b : Barrier} {blocked : Blocked Name} (sound : Sound b blocked) {name : Name}
    (absent : blocked name = none) (now : Nat) {w : Wait} (waiting : w.arrival = none) :
    Moves b blocked (b.pollEvents now name w) (b.poll now w).1
      (Function.update blocked name (b.poll now w).2.1.arrival) := by
  have polled : b.poll now w = b.arrive now w := by simp [poll, waiting]
  have same : Function.update blocked name none = blocked := by
    rw [← absent]
    exact Function.update_eq_self name blocked
  rcases arrive_cases b now w with ⟨broken, eq⟩ | ⟨unbroken, last, eq⟩ | ⟨unbroken, room, a, rfl, eq⟩
  · simp only [pollEvents, polled, eq, waiting, broken, Poll.arrival, same, Wait.generation]
    exact (Move.refuse broken).moves
  · simp only [pollEvents, polled, eq, waiting, unbroken, Poll.arrival, same, Wait.generation]
    exact (Move.release unbroken absent last).moves
  · have joins := Move.join (w.timeout.map (now + ·)) unbroken absent room
    have looks := pollBlocked_moves (sound.move joins) (Function.update_self ..) now w
    rw [Function.update_idem] at looks
    have shows : b.pollEvents now name w = [.arrived name b.generation] ++
        blockedEvents name ⟨b.generation, b.nextTicket, w.timeout.map (now + ·)⟩
          (b.joined.pollBlocked now w ⟨b.generation, b.nextTicket, w.timeout.map (now + ·)⟩).2.1 := by
      simp only [pollEvents, polled, eq, waiting, unbroken, Wait.generation]
      split <;> simp_all [blockedEvents]
    rw [shows, polled, eq]
    exact .more joins looks

theorem poll_moves {b : Barrier} {blocked : Blocked Name} (sound : Sound b blocked) {name : Name} (now : Nat)
    {w : Wait} (known : blocked name = w.arrival) :
    Moves b blocked (b.pollEvents now name w) (b.poll now w).1
      (Function.update blocked name (b.poll now w).2.1.arrival) := by
  cases arrival : w.arrival with
  | none => exact arrive_moves sound (known.trans arrival) now arrival
  | some a =>
    have polled : b.poll now w = b.pollBlocked now w a := by simp [poll, arrival]
    have shows : b.pollEvents now name w = blockedEvents name a (b.pollBlocked now w a).2.1 := by
      simp only [pollEvents, polled, arrival, Wait.generation]
      split <;> simp_all [blockedEvents]
    rw [shows, polled]
    exact pollBlocked_moves sound (known.trans arrival) now w

theorem drop_moves {b : Barrier} {blocked : Blocked Name} {name : Name} {w : Wait} (known : blocked name = w.arrival) :
    Moves b blocked (dropEvents name w) (b.drop w).1 (Function.update blocked name none) := by
  cases arrival : w.arrival with
  | none =>
    have same : Function.update blocked name none = blocked := by
      rw [← known.trans arrival]
      exact Function.update_eq_self name blocked
    simpa [dropEvents, drop, arrival, same] using Moves.none b blocked
  | some a =>
    have arrived := known.trans arrival
    simp only [dropEvents, drop, arrival, leave]
    by_cases past : b.generation ≠ a.generation ∨ b.broken = true
    · simpa [past] using (Move.leave arrived past).moves
    · have here : b.generation = a.generation ∧ b.broken = false := by simpa using past
      cases policy : b.options.policy with
      | breakGeneration =>
        have broken : b.abort.1.broken = true := by simp [abort, here.2]
        simpa [past] using (Move.abort here.2).then (.leave arrived (.inr broken))
      | withdraw => simpa [past, withdrawn] using (Move.withdraw here.2 arrived here.1).moves

theorem abort_moves (b : Barrier) (blocked : Blocked Name) : Moves b blocked [] b.abort.1 blocked := by
  cases broken : b.broken with
  | true => simpa [abort_of_broken broken] using Moves.none b blocked
  | false => exact (Move.abort broken).moves

/-- A reset breaks the generation unless that was done before, and opens the next one. -/
theorem reset_eq (b : Barrier) : b.reset.1 = b.abort.1.advance := by
  cases broken : b.broken with
  | true => cases empty : b.waiting.isEmpty <;> simp [reset, abort, broken, empty]
  | false => cases empty : b.waiting.isEmpty <;> simp [reset, abort, broken, empty, advance]

theorem reset_moves (b : Barrier) (blocked : Blocked Name) : Moves b blocked [] b.reset.1 blocked := by
  rw [reset_eq]
  cases broken : b.broken with
  | true =>
    have opens : Move b blocked [] b.advance blocked := .advance broken
    simpa [abort_of_broken broken] using opens.moves
  | false =>
    have broken' : b.abort.1.broken = true := by simp [abort, broken]
    exact (Move.abort broken).then (.advance broken')

theorem Moves.sound {b b' : Barrier} {blocked blocked' : Blocked Name} {es : List (Event Name)}
    (m : Moves b blocked es b' blocked') (sound : Sound b blocked) : Sound b' blocked' := by
  induction m with
  | none => exact sound
  | more first _ ih => exact ih (sound.move first)

theorem Moves.append {b b' b'' : Barrier} {blocked blocked' blocked'' : Blocked Name} {es es' : List (Event Name)}
    (m : Moves b blocked es b' blocked') (m' : Moves b' blocked' es' b'' blocked'') :
    Moves b blocked (es ++ es') b'' blocked'' := by
  induction m with
  | none => exact m'
  | more first _ ih =>
    rw [List.append_assoc]
    exact .more first (ih m')

namespace Run

/-- The waits of a run that are blocked. -/
def blocked (r : Run Name) : Blocked Name :=
  fun name => (r.find? name).bind (·.arrival)

theorem find?_put (r : Run Name) (name other : Name) (w : Wait) :
    (r.put name w).find? other = if other = name then (r.find? name).map fun _ => w else r.find? other := by
  obtain ⟨b, now, waits, results, meter⟩ := r
  simp only [find?, put]
  induction waits with
  | nil => simp
  | cons e rest ih =>
    by_cases here : e.1 = name
    · by_cases same : other = name
      · simp [here, same]
      · have different : ¬ name = other := fun equal => same equal.symm
        simpa [here, same, different] using ih
    · by_cases there : e.1 = other
      · have different : ¬ other = name := fun equal => here (there.trans equal)
        simp [there, different]
      · simpa [List.find?_cons, here, there] using ih

theorem find?_remove (r : Run Name) (name other : Name) :
    (r.remove name).find? other = if other = name then none else r.find? other := by
  obtain ⟨b, now, waits, results, meter⟩ := r
  simp only [find?, remove, List.find?_filter]
  by_cases same : other = name
  · subst same
    simp [List.find?_eq_none]
  · rw [if_neg same]
    congr 2
    funext e
    by_cases there : e.1 = other
    · simp [there, same]
    · simp [there]

theorem find?_create (r : Run Name) (name other : Name) (timeout : Option Nat) :
    (r.create name timeout).find? other =
      if other = name ∧ r.find? name = none then some { timeout } else r.find? other := by
  cases known : r.find? name with
  | some w => simp [create, known]
  | none =>
    simp only [create, known, Option.isSome_none, Bool.false_eq_true, if_false, and_true]
    have absent := known
    simp only [find?, Option.map_eq_none_iff] at absent
    by_cases same : other = name
    · subst same
      simp [find?, List.find?_append, absent]
    · have different : ¬ name = other := fun equal => same equal.symm
      simp [find?, List.find?_append, same, different]

theorem find?_of_waits {r r' : Run Name} (same : r.waits = r'.waits) : r.find? = r'.find? := by
  funext name
  simp only [find?, same]

/-- The barrier after a poll, and who is blocked then. -/
theorem poll_eq (r : Run Name) {name : Name} {w : Wait} (found : r.find? name = some w) :
    (r.poll name).barrier = (r.barrier.poll r.now w).1 ∧
      (r.poll name).blocked = Function.update r.blocked name (r.barrier.poll r.now w).2.1.arrival := by
  cases polled : (r.barrier.poll r.now w).2.1 with
  | pending w' =>
    have waits : (r.poll name).waits = (r.put name w').waits := by simp [poll, found, polled, put]
    refine ⟨by simp [poll, found, polled, put], funext fun other => ?_⟩
    rw [blocked, find?_of_waits waits, find?_put, found]
    by_cases same : other = name
    · simp [same, Poll.arrival]
    · simp [same, blocked]
  | done result =>
    have waits : (r.poll name).waits = (r.remove name).waits := by simp [poll, found, polled, remove]
    refine ⟨by simp [poll, found, polled, remove], funext fun other => ?_⟩
    rw [blocked, find?_of_waits waits, find?_remove]
    by_cases same : other = name
    · simp [same, Poll.arrival]
    · simp [same, blocked]

theorem drop_eq (r : Run Name) {name : Name} {w : Wait} (found : r.find? name = some w) :
    (r.drop name).barrier = (r.barrier.drop w).1 ∧ (r.drop name).blocked = Function.update r.blocked name none := by
  have waits : (r.drop name).waits = (r.remove name).waits := by simp [drop, found]
  refine ⟨by simp [drop, found], funext fun other => ?_⟩
  rw [blocked, find?_of_waits waits, find?_remove]
  by_cases same : other = name
  · simp [same]
  · simp [same, blocked]

theorem perform_moves (r : Run Name) (sound : Sound r.barrier r.blocked) (op : Operation Name) :
    Moves r.barrier r.blocked (r.events op) (r.perform op).barrier (r.perform op).blocked := by
  cases op with
  | create name timeout =>
    have same : (r.perform (.create name timeout)).blocked = r.blocked := by
      funext other
      simp only [perform, blocked, find?_create]
      by_cases new : other = name ∧ r.find? name = none
      · simp [new.1, new.2]
      · rw [if_neg new]
    have barrier : (r.perform (.create name timeout)).barrier = r.barrier := by
      simp only [perform, create]
      split <;> rfl
    rw [same, barrier]
    exact .none _ _
  | poll name =>
    simp only [events, perform]
    cases found : r.find? name with
    | none => simpa [poll, found] using Moves.none r.barrier r.blocked
    | some w =>
      rw [(r.poll_eq found).1, (r.poll_eq found).2]
      exact poll_moves sound r.now (by simp [blocked, found])
  | drop name =>
    simp only [events, perform]
    cases found : r.find? name with
    | none => simpa [drop, found] using Moves.none r.barrier r.blocked
    | some w =>
      rw [(r.drop_eq found).1, (r.drop_eq found).2]
      exact drop_moves (by simp [blocked, found])
  | advance ms => exact .none _ _
  | abort => exact abort_moves r.barrier r.blocked
  | reset => exact reset_moves r.barrier r.blocked

theorem run_moves (r : Run Name) (sound : Sound r.barrier r.blocked) (ops : List (Operation Name)) :
    Moves r.barrier r.blocked (r.history ops) (r.run ops).barrier (r.run ops).blocked := by
  induction ops generalizing r with
  | nil => exact .none _ _
  | cons op ops ih =>
    have first := r.perform_moves sound op
    exact first.append (ih (r.perform op) (first.sound sound))

end Run
end Lockstep.Barrier
