import Lockstep.Proofs.Barrier.Generation

/-!
# All or nothing

A generation is released for all its parties or for none. Its outcome, once it
has one, stays; the party that completes it learns that at once, all others
whenever they are polled.
-/
namespace Lockstep.Barrier

variable {Name : Type} [DecidableEq Name]

private theorem Move.options {b b' : Barrier} {blocked blocked' : Blocked Name} {es : List (Event Name)}
    (m : Move b blocked es b' blocked') : b'.options = b.options := by
  cases m with
  | abort unbroken => simp [Barrier.abort, unbroken]
  | _ => rfl

theorem Moves.options {b b' : Barrier} {blocked blocked' : Blocked Name} {es : List (Event Name)}
    (m : Moves b blocked es b' blocked') : b'.options = b.options := by
  induction m with
  | none => rfl
  | more first _ ih => exact ih.trans first.options

private theorem outcome?_push {b b' : Barrier} {g : Nat} {outcome : Outcome} (known : b.outcome? g = some outcome)
    {last : Outcome} (pushed : b'.outcomes = b.outcomes.push last) : b'.outcome? g = some outcome := by
  obtain ⟨inside, here⟩ := Array.getElem?_eq_some_iff.mp known
  simp only [outcome?, pushed, Array.getElem?_push]
  rw [if_neg (Nat.ne_of_lt inside)]
  exact known

private theorem Move.outcome? {b b' : Barrier} {blocked blocked' : Blocked Name} {es : List (Event Name)} {g : Nat}
    {outcome : Outcome} (m : Move b blocked es b' blocked') (known : b.outcome? g = some outcome) :
    b'.outcome? g = some outcome := by
  cases m with
  | release unbroken absent last => exact outcome?_push known rfl
  | abort unbroken =>
    have pushed : b.abort.1.outcomes = b.outcomes.push .broken := by simp [Barrier.abort, unbroken]
    exact outcome?_push known pushed
  | _ => exact known

theorem Moves.outcome? {b b' : Barrier} {blocked blocked' : Blocked Name} {es : List (Event Name)} {g : Nat}
    {outcome : Outcome} (m : Moves b blocked es b' blocked') (known : b.outcome? g = some outcome) :
    b'.outcome? g = some outcome := by
  induction m with
  | none => exact known
  | more first _ ih => exact ih (first.outcome? known)

/-- A generation that has no outcome had none before. -/
theorem Moves.unsettled {b b' : Barrier} {blocked blocked' : Blocked Name} {es : List (Event Name)} {g : Nat}
    (m : Moves b blocked es b' blocked') (unknown : b'.outcome? g = .none) : b.outcome? g = .none := by
  cases known : b.outcome? g with
  | none => rfl
  | some outcome => exact absurd (m.outcome? known) (by simp [unknown])

theorem Story.fresh (o : Options) (g : Nat) : Story { options := o } (fun _ : Name => none) [] g := by
  have unknown : ({ options := o } : Barrier).outcome? g = none := by simp [Barrier.outcome?]
  simp only [Story, unknown]
  refine ⟨?_, by simp⟩
  have nobody : (if g = 0 then ([] : List Ticket) else []) = [] := ite_self _
  simp only [present, List.foldl_nil, nobody]
  exact .nil

def Event.result? : Event Name → Option (Name × Result)
  | .returned name _ result => some (name, result)
  | _ => none

omit [DecidableEq Name] in
/-- Polling a wait shows at most its arrival, and after that at most its return. -/
theorem pollEvents_cases (b : Barrier) (now : Nat) (name : Name) (w : Wait) :
    ∃ tail, (∀ e ∈ tail, ∃ g result, e = .returned name g result) ∧
      (b.pollEvents now name w = tail ∨ b.pollEvents now name w = .arrived name b.generation :: tail) := by
  simp only [pollEvents]
  cases (b.poll now w).2.1 with
  | pending w' =>
    refine ⟨[], by simp, ?_⟩
    cases w.arrival.isNone && !b.broken <;> simp
  | done result =>
    refine ⟨[.returned name (w.generation b) result], by simp, ?_⟩
    cases w.arrival.isNone && !b.broken <;> simp

namespace Run

theorem results_perform (r : Run Name) (op : Operation Name) :
    (r.perform op).results = r.results ++ (r.events op).filterMap Event.result? := by
  cases op with
  | create name timeout =>
    simp only [perform, create, events, List.filterMap_nil, List.append_nil]
    split <;> rfl
  | poll name =>
    cases found : r.find? name with
    | none => simp [perform, poll, events, found]
    | some w =>
      simp only [perform, events, found, pollEvents]
      cases polled : (r.barrier.poll r.now w).2.1 with
      | pending w' =>
        have kept : (r.poll name).results = r.results := by simp [poll, found, polled, put]
        rw [kept]
        cases w.arrival.isNone && !r.barrier.broken <;> simp [Event.result?]
      | done result =>
        have more : (r.poll name).results = r.results ++ [(name, result)] := by simp [poll, found, polled, remove]
        rw [more]
        cases w.arrival.isNone && !r.barrier.broken <;> simp [Event.result?, List.filterMap_cons]
  | drop name =>
    cases found : r.find? name with
    | none => simp [perform, drop, events, found]
    | some w =>
      cases arrival : w.arrival <;>
        simp [perform, drop, events, found, remove, dropEvents, arrival, Event.result?]
  | advance ms => simp [perform, events]
  | abort => simp [perform, events]
  | reset => simp [perform, events]

theorem results_run (r : Run Name) (ops : List (Operation Name)) :
    (r.run ops).results = r.results ++ (r.history ops).filterMap Event.result? := by
  induction ops generalizing r with
  | nil => simp
  | cons op ops ih => simp [ih, results_perform, List.append_assoc]

/-- An arrival is the first thing that an operation shows, and the operation is the first poll of the wait. -/
theorem events_arrived {r : Run Name} {op : Operation Name} {before rest : List (Event Name)} {name : Name} {g : Nat}
    (shows : r.events op = before ++ .arrived name g :: rest) : before = [] ∧ op = .poll name := by
  cases op with
  | poll other =>
    cases found : r.find? other with
    | none => simp [events, found] at shows
    | some w =>
      simp only [events, found] at shows
      obtain ⟨tail, returns, eq | eq⟩ := pollEvents_cases r.barrier r.now other w
      · obtain ⟨g', result, wrong⟩ := returns (.arrived name g) (by rw [← eq, shows]; simp)
        cases wrong
      · rw [eq] at shows
        cases before with
        | nil =>
          simp only [List.nil_append, List.cons.injEq, Event.arrived.injEq] at shows
          exact ⟨rfl, by rw [shows.1.1]⟩
        | cons e before =>
          rw [List.cons_append, List.cons.injEq] at shows
          obtain ⟨g', result, wrong⟩ := returns (.arrived name g) (by simp [shows.2])
          cases wrong
  | drop other =>
    cases found : r.find? other with
    | none => simp [events, found] at shows
    | some w =>
      cases arrival : w.arrival <;>
        simp [events, found, dropEvents, arrival, List.singleton_eq_append_iff] at shows
  | _ => simp [events] at shows

theorem events_poll_arrived {r : Run Name} {name : Name} {g : Nat} {rest : List (Event Name)}
    (shows : r.events (.poll name) = .arrived name g :: rest) :
    ∃ w, r.find? name = some w ∧ w.arrival = none ∧ r.barrier.broken = false ∧ g = r.barrier.generation := by
  cases found : r.find? name with
  | none => simp [events, found] at shows
  | some w =>
    simp only [events, found, pollEvents] at shows
    by_cases first : (w.arrival.isNone && !r.barrier.broken) = true
    · simp only [Bool.and_eq_true, Option.isNone_iff_eq_none, Bool.not_eq_true'] at first
      refine ⟨w, rfl, first.1, first.2, ?_⟩
      rw [first.1, first.2] at shows
      split at shows <;> simp at shows <;> exact shows.1.symm
    · rw [if_neg first] at shows
      split at shows <;> simp at shows

/-- Where a run shows an arrival, the wait was polled for the first time. -/
private theorem history_arrived {r : Run Name} {ops : List (Operation Name)} {before after : List (Event Name)}
    {name : Name} {g : Nat} (shows : r.history ops = before ++ .arrived name g :: after) :
    ∃ earlier later rest, ops = earlier ++ .poll name :: later ∧ before = r.history earlier ∧
      (r.run earlier).events (.poll name) = .arrived name g :: rest ∧
      after = rest ++ ((r.run earlier).perform (.poll name)).history later := by
  induction ops generalizing r before with
  | nil => simp at shows
  | cons op ops ih =>
    rw [history_cons] at shows
    rcases List.append_eq_append_iff.mp shows with ⟨between, split, rest⟩ | ⟨between, split, rest⟩
    · obtain ⟨earlier, later, tail, rfl, rfl, first, last⟩ := ih rest
      exact ⟨op :: earlier, later, tail, rfl, by simp [split], first, last⟩
    · cases between with
      | nil =>
        rw [List.nil_append] at rest
        have begins : (r.perform op).history ops = [] ++ .arrived name g :: after := by simpa using rest.symm
        obtain ⟨earlier, later, tail, rfl, start, first, last⟩ := ih begins
        rw [List.append_nil] at split
        exact ⟨op :: earlier, later, tail, rfl, by rw [history_cons, ← start, ← split, List.append_nil], first, last⟩
      | cons e between =>
        rw [List.cons_append, List.cons.injEq] at rest
        obtain ⟨rfl, rest⟩ := rest
        obtain ⟨rfl, rfl⟩ := events_arrived split
        exact ⟨[], ops, between, rfl, rfl, by simpa using split, rest⟩

/-- The wait that completes a generation releases it within its first poll. -/
theorem poll_last {r : Run Name} {name : Name} {w : Wait} (found : r.find? name = some w) (first : w.arrival = none)
    (unbroken : r.barrier.broken = false) (last : r.barrier.waiting.length + 1 = r.barrier.options.parties) :
    r.events (.poll name) =
        [.arrived name r.barrier.generation, .returned name r.barrier.generation (.released r.barrier.waiting.length)] ∧
      (r.perform (.poll name)).results = r.results ++ [(name, .released r.barrier.waiting.length)] := by
  have polled : r.barrier.poll r.now w =
      (r.barrier.released, .done (.released r.barrier.waiting.length), { releases := 1 }) := by
    rcases arrive_cases r.barrier r.now w with ⟨broken, _⟩ | ⟨_, _, eq⟩ | ⟨_, room, _⟩
    · rw [unbroken] at broken
      cases broken
    · simpa [Barrier.poll, first] using eq
    · exact absurd last room
  have shows : r.events (.poll name) = [.arrived name r.barrier.generation,
      .returned name r.barrier.generation (.released r.barrier.waiting.length)] := by
    simp [events, found, pollEvents, polled, first, unbroken, Wait.generation]
  refine ⟨shows, ?_⟩
  rw [results_perform, shows]
  rfl

/-- A blocked wait of a generation with an outcome is told what the outcome means to it. -/
private theorem poll_settled {r : Run Name} {name : Name} {w : Wait} {a : Arrival} {outcome : Outcome}
    (found : r.find? name = some w) (arrived : w.arrival = some a)
    (known : r.barrier.outcome? a.generation = some outcome) :
    (r.perform (.poll name)).results = r.results ++ [(name, outcome.result a)] := by
  simp [perform, poll, found, poll_of_outcome arrived known, remove]

/-- In the run of these operations the generation was released with these parties, in this order. -/
structure Releases (start : Run Name) (ops : List (Operation Name)) (g : Nat) (parties : List Name) : Prop where
  length : parties.length = start.barrier.options.parties
  nodup : parties.Nodup
  /-- The parties are those present when the last one came. Its first poll released them all and told it the last
      index; after that nobody arrived in the generation. -/
  released : ∃ earlier last later w, ops = earlier ++ .poll last :: later ∧
    parties = present g (start.history earlier) ++ [last] ∧
    (start.run earlier).find? last = some w ∧ w.arrival = none ∧
    (start.run earlier).events (.poll last) = [.arrived last g, .returned last g (.released (parties.length - 1))] ∧
    ((start.run earlier).perform (.poll last)).results =
      (start.run earlier).results ++ [(last, .released (parties.length - 1))] ∧
    ∀ name, .arrived name g ∉ ((start.run earlier).perform (.poll last)).history later
  /-- Who finished was told its place among the parties. -/
  told : ∀ name result, .returned name g result ∈ start.history ops →
    ∃ i, parties[i]? = some name ∧ result = .released i
  /-- Who has not finished is told its place as soon as it is polled. -/
  owed : ∀ name w a, (start.run ops).find? name = some w → w.arrival = some a → a.generation = g →
    ∃ i, parties[i]? = some name ∧
      ((start.run ops).perform (.poll name)).results = (start.run ops).results ++ [(name, .released i)]

/-- In the run of these operations nobody was released with the generation. -/
structure Fails (start : Run Name) (ops : List (Operation Name)) (g : Nat) : Prop where
  unreleased : ∀ tickets, (start.run ops).barrier.outcome? g ≠ some (.released tickets)
  told : ∀ name result, .returned name g result ∈ start.history ops →
    ∃ why, result = .failed why ∧ why.fault.kind = .barrierBroken
  /-- Once it is broken, who has not finished fails as soon as it is polled. -/
  owed : (start.run ops).barrier.outcome? g = some .broken → ∀ name w a, (start.run ops).find? name = some w →
    w.arrival = some a → a.generation = g → ∃ why, why.fault.kind = .barrierBroken ∧
      ((start.run ops).perform (.poll name)).results = (start.run ops).results ++ [(name, .failed why)]

/-- A run that starts with a new barrier tells a story of each generation. -/
theorem story_of_run {o : Options} (positive : 0 < o.parties) (ops : List (Operation Name)) :
    let start : Run Name := { barrier := { options := o } }
    Sound (start.run ops).barrier (start.run ops).blocked ∧ (start.run ops).barrier.options = o ∧
      ∀ g, Story (start.run ops).barrier (start.run ops).blocked (start.history ops) g := by
  intro start
  have sound : Sound start.barrier start.blocked := Sound.fresh positive
  have moves := run_moves start sound ops
  exact ⟨moves.sound sound, moves.options, fun g => (Story.fresh o g).moves sound moves⟩

theorem releases_of_freed {o : Options} (positive : 0 < o.parties) (ops : List (Operation Name)) {g : Nat}
    {tickets : List Ticket} {parties : List Name} :
    let start : Run Name := { barrier := { options := o } }
    (start.run ops).barrier.outcome? g = some (.released tickets) →
    Freed (start.run ops).barrier (start.run ops).blocked (start.history ops) g tickets parties →
    start.Releases ops g parties := by
  intro start known freed
  obtain ⟨_, options, _⟩ := story_of_run positive ops
  obtain ⟨before, last, after, split, named, silent, closed⟩ := freed.release
  obtain ⟨earlier, later, rest, rfl, rfl, first, tail⟩ := history_arrived split
  obtain ⟨w, found, fresh, unbroken, current⟩ := events_poll_arrived first
  obtain ⟨sound, options', stories⟩ := story_of_run positive earlier
  -- The parties present before the last poll are all but one of those that it takes.
  have unknown : (start.run earlier).barrier.outcome? g = none :=
    (sound.outcome?_eq_none_iff g).mpr (.inr ⟨current.symm, unbroken⟩)
  have aligned := ((stories g).unsettled unknown).aligned
  rw [if_pos current] at aligned
  have count : (start.run earlier).barrier.waiting.length + 1 = parties.length := by
    rw [named, List.length_append, ← aligned.length_eq]
    rfl
  have length : parties.length = o.parties := by rw [freed.length, options]
  have complete : (start.run earlier).barrier.waiting.length + 1 = (start.run earlier).barrier.options.parties := by
    rw [count, length, options']
  obtain ⟨shows, results⟩ := poll_last found fresh unbroken complete
  rw [show (start.run earlier).barrier.waiting.length = parties.length - 1 by omega, ← current] at shows
  rw [show (start.run earlier).barrier.waiting.length = parties.length - 1 by omega] at results
  refine ⟨length, freed.nodup, ⟨earlier, last, later, w, rfl, named, found, fresh, shows, results, ?_⟩, freed.told, ?_⟩
  · rw [first, List.cons.injEq] at shows
    rw [shows.2, List.singleton_append, List.cons.injEq] at tail
    rw [← tail.2]
    exact closed
  · intro name w' a found' arrived here
    obtain ⟨i, member, ticketed⟩ := freed.listed name a (by simp [blocked, found', arrived]) here
    refine ⟨i, member, ?_⟩
    rw [poll_settled found' arrived (by rw [here]; exact known)]
    simp [Outcome.result, ticketed]

theorem fails_of_story {o : Options} (positive : 0 < o.parties) (ops : List (Operation Name)) {g : Nat} :
    let start : Run Name := { barrier := { options := o } }
    (∀ tickets, (start.run ops).barrier.outcome? g ≠ some (.released tickets)) → start.Fails ops g := by
  intro start unreleased
  obtain ⟨_, _, stories⟩ := story_of_run positive ops
  refine ⟨unreleased, ?_, ?_⟩
  · intro name result member
    cases known : (start.run ops).barrier.outcome? g with
    | none => exact absurd member (((stories g).unsettled known).silent name result)
    | some outcome =>
      cases outcome with
      | released tickets => exact absurd known (unreleased tickets)
      | broken =>
        rcases (stories g).failed known name result member with rfl | rfl
        · exact ⟨_, rfl, rfl⟩
        · exact ⟨_, rfl, rfl⟩
  · intro known name w a found arrived here
    refine ⟨.brokenDuring a.generation, rfl, ?_⟩
    exact poll_settled found arrived (by rw [here]; exact known)

end Run

/-- Every generation is released for as many parties as it takes, each of which is told its place in the order of
    arrival, or nobody of it is released; whichever it is, it stays. A wait that fails finds its generation broken. -/
theorem generation_all_or_nothing {o : Options} {b : Barrier} (made : new? o = some b) (ops : List (Operation Name))
    (g : Nat) :
    let start : Run Name := { barrier := b }
    (∀ outcome more, (start.run ops).barrier.outcome? g = some outcome →
      (start.run (ops ++ more)).barrier.outcome? g = some outcome) ∧
    ((∃ tickets parties, (start.run ops).barrier.outcome? g = some (.released tickets) ∧
        start.Releases ops g parties) ∨ start.Fails ops g) ∧
    ∀ name why, (name, .failed why) ∈ (start.run ops).results → why.fault.kind = .barrierBroken := by
  intro start
  obtain ⟨positive, rfl⟩ := new?_eq_some made
  obtain ⟨sound, _, stories⟩ := Run.story_of_run positive ops
  have either : ∀ g', (∃ tickets parties, (start.run ops).barrier.outcome? g' = some (.released tickets) ∧
      start.Releases ops g' parties) ∨ start.Fails ops g' := by
    intro g'
    by_cases released : ∃ tickets, (start.run ops).barrier.outcome? g' = some (.released tickets)
    · obtain ⟨tickets, known⟩ := released
      obtain ⟨parties, freed⟩ := (stories g').freed known
      exact .inl ⟨tickets, parties, known, Run.releases_of_freed positive ops known freed⟩
    · exact .inr (Run.fails_of_story positive ops fun tickets known => released ⟨tickets, known⟩)
  refine ⟨?_, either g, ?_⟩
  · intro outcome more known
    rw [Run.run_append]
    exact (Run.run_moves _ sound more).outcome? known
  · intro name why member
    rw [Run.results_run, List.nil_append, List.mem_filterMap] at member
    obtain ⟨e, shown, result⟩ := member
    cases e with
    | returned name' g' result' =>
      simp only [Event.result?, Option.some.injEq, Prod.mk.injEq] at result
      obtain ⟨rfl, rfl⟩ := result
      rcases either g' with ⟨_, parties, _, releases⟩ | fails
      · obtain ⟨i, _, equal⟩ := releases.told _ _ shown
        cases equal
      · obtain ⟨why', equal, kind⟩ := fails.told _ _ shown
        cases equal
        exact kind
    | _ => simp [Event.result?] at result

/-- One of four parties withdraws before the last comes; the barrier is reset and aborted before two of the released
    ones are polled again. -/
def withdrawal : List (Operation Nat) :=
  [.create 0 none, .create 1 (some 5), .create 2 none, .create 3 (some 0), .poll 0, .poll 1, .drop 0, .poll 2, .poll 3,
    .reset, .abort, .advance 9, .poll 1]

theorem generation_all_or_nothing_withdrawal :
    new? ⟨3, .withdraw⟩ = some { options := ⟨3, .withdraw⟩ } ∧
      ∃ parties, Run.Releases { barrier := { options := ⟨3, .withdraw⟩ } } withdrawal 0 parties := by
  refine ⟨rfl, ?_⟩
  rcases (generation_all_or_nothing (o := ⟨3, .withdraw⟩) rfl withdrawal 0).2.1 with ⟨_, parties, _, releases⟩ | fails
  · exact ⟨parties, releases⟩
  · exact absurd (by decide) (fails.unreleased [1, 2, 3])

end Lockstep.Barrier
