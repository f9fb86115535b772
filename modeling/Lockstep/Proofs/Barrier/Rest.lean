import Lockstep.Proofs.Barrier.Waits

namespace Lockstep.Barrier

variable {Name : Type} [DecidableEq Name]

namespace Run

/-- Polls these waits, one after the other. -/
def polls (r : Run Name) (names : List Name) : Run Name :=
  names.foldl poll r

@[simp] theorem polls_nil (r : Run Name) : r.polls [] = r := rfl

@[simp] theorem polls_cons (r : Run Name) (name : Name) (names : List Name) :
    r.polls (name :: names) = (r.poll name).polls names := rfl

theorem polls_eq_run (r : Run Name) (names : List Name) : r.polls names = r.run (names.map .poll) := by
  induction names generalizing r with
  | nil => rfl
  | cons name names ih => exact ih (r.poll name)

/-- No blocked wait finishes when it is polled. -/
def AtRest (r : Run Name) : Prop :=
  ∀ name, (r.blocked name).isSome → ((r.poll name).find? name).isSome

/-- These are the blocked waits, each at least once. -/
def Round (r : Run Name) (names : List Name) : Prop :=
  ∀ name, name ∈ names ↔ (r.blocked name).isSome

/-- The results may have come in another order; all else is the same. -/
structure SameButOrder (r r' : Run Name) : Prop where
  barrier : r.barrier = r'.barrier
  now : r.now = r'.now
  waits : r.waits = r'.waits
  results : r.results.Perm r'.results
  meter : r.meter = r'.meter

omit [DecidableEq Name] in
theorem SameButOrder.refl (r : Run Name) : r.SameButOrder r :=
  ⟨rfl, rfl, rfl, .refl _, rfl⟩

omit [DecidableEq Name] in
theorem SameButOrder.symm {r r' : Run Name} (same : r.SameButOrder r') : r'.SameButOrder r :=
  ⟨same.barrier.symm, same.now.symm, same.waits.symm, same.results.symm, same.meter.symm⟩

omit [DecidableEq Name] in
theorem SameButOrder.trans {r r' r'' : Run Name} (first : r.SameButOrder r') (second : r'.SameButOrder r'') :
    r.SameButOrder r'' :=
  ⟨first.barrier.trans second.barrier, first.now.trans second.now, first.waits.trans second.waits,
    first.results.trans second.results, first.meter.trans second.meter⟩

structure Valid (r : Run Name) : Prop where
  sound : Sound r.barrier r.blocked
  distinct : r.Distinct

namespace Valid

variable {r : Run Name}

theorem new {o : Options} {b : Barrier} (made : new? o = some b) : Valid ({ barrier := b } : Run Name) := by
  obtain ⟨positive, rfl⟩ := new?_eq_some made
  exact ⟨Sound.fresh positive, .nil⟩

theorem perform (valid : r.Valid) (op : Operation Name) : (r.perform op).Valid :=
  ⟨(r.perform_moves valid.sound op).sound valid.sound, valid.distinct.perform op⟩

theorem run (valid : r.Valid) (ops : List (Operation Name)) : (r.run ops).Valid :=
  ⟨(r.run_moves valid.sound ops).sound valid.sound, valid.distinct.run ops⟩

theorem poll (valid : r.Valid) (name : Name) : (r.poll name).Valid :=
  valid.perform (.poll name)

theorem polls (valid : r.Valid) (names : List Name) : (r.polls names).Valid := by
  rw [polls_eq_run]
  exact valid.run _

end Valid

/-- The wait has arrived, or it is gone. -/
def Started (r : Run Name) (name : Name) : Prop :=
  ∀ w, r.find? name = some w → w.arrival.isSome

theorem started_of_blocked {r : Run Name} {name : Name} (blocked : (r.blocked name).isSome) : r.Started name := by
  intro w found
  simpa [Run.blocked, found] using blocked

/-- A blocked wait finishes, which leaves this barrier. -/
def finish (r : Run Name) (name : Name) (result : Result) (barrier : Barrier) (meter : Meter) : Run Name :=
  { r.remove name with barrier, results := r.results ++ [(name, result)], meter := r.meter + (meter + { waiting := -1 }) }

/-- What polling a wait that has arrived makes of a run. -/
inductive Polled (r : Run Name) (name : Name) : Run Name → Prop
  | still : (∀ a, r.blocked name = some a →
      r.barrier.outcome? a.generation = none ∧ a.deadline.any (· ≤ r.now) = false) → Polled r name r
  | told {a outcome} : r.blocked name = some a → r.barrier.outcome? a.generation = some outcome →
      Polled r name (r.finish name (outcome.result a) r.barrier {})
  | late {a} : r.blocked name = some a → r.barrier.outcome? a.generation = none →
      a.deadline.any (· ≤ r.now) = true →
      Polled r name (r.finish name (.failed (.brokenDuring a.generation)) r.barrier.abort.1 r.barrier.abort.2)

variable {r : Run Name} {name : Name}

/-- A poll changes nothing, or the wait finishes. -/
theorem Polled.same_or_finish {r' : Run Name} (polled : Polled r name r') :
    r' = r ∨ ∃ result barrier meter, r' = r.finish name result barrier meter := by
  cases polled with
  | still _ => exact .inl rfl
  | told _ _ => exact .inr ⟨_, _, _, rfl⟩
  | late _ _ _ => exact .inr ⟨_, _, _, rfl⟩

theorem find?_finish (result : Result) (barrier : Barrier) (meter : Meter) (other : Name) :
    (r.finish name result barrier meter).find? other = if other = name then none else r.find? other :=
  r.find?_remove name other

theorem blocked_finish (result : Result) (barrier : Barrier) (meter : Meter) (other : Name) :
    (r.finish name result barrier meter).blocked other = if other = name then none else r.blocked other := by
  simp only [Run.blocked, find?_finish]
  split <;> rfl

theorem Distinct.polled (distinct : r.Distinct) (started : r.Started name) : Polled r name (r.poll name) := by
  cases found : r.find? name with
  | none =>
    rw [poll_absent found]
    exact .still fun a blocked => by simp [Run.blocked, found] at blocked
  | some w =>
    obtain ⟨a, arrived⟩ := Option.isSome_iff_exists.mp (started w found)
    have blocked : r.blocked name = some a := by simp [Run.blocked, found, arrived]
    have poll : r.barrier.poll r.now w = r.barrier.pollBlocked r.now w a := by simp [Barrier.poll, arrived]
    rcases pollBlocked_cases r.barrier r.now w a with ⟨outcome, known, eq⟩ | ⟨unknown, due, eq⟩ | ⟨unknown, early, eq⟩
    · rw [poll_done found (by rw [poll, eq]), poll, eq]
      simpa only [finish, Meter.empty_add] using Polled.told blocked known
    · rw [poll_done found (by rw [poll, eq]), poll, eq]
      exact .late blocked unknown due
    · have same : { w with arrival := some a } = w := by rw [← arrived]
      have nothing : r.poll name = r := by
        rw [poll_pending found (by rw [poll, eq]), poll, eq, same, distinct.put_self found, Meter.add_empty]
      rw [nothing]
      refine .still fun a' blocked' => ?_
      rw [blocked, Option.some.injEq] at blocked'
      rw [← blocked']
      exact ⟨unknown, early⟩

theorem Distinct.atRest_iff (distinct : r.Distinct) :
    r.AtRest ↔ ∀ name a, r.blocked name = some a →
      r.barrier.outcome? a.generation = none ∧ a.deadline.any (· ≤ r.now) = false := by
  constructor
  · intro rest name a blocked
    have isBlocked : (r.blocked name).isSome := by simp [blocked]
    have unfinished := rest name isBlocked
    have polled := distinct.polled (started_of_blocked isBlocked)
    generalize r.poll name = r' at unfinished polled
    cases polled with
    | still nothing => exact nothing a blocked
    | told blocked' known => simp [find?_finish] at unfinished
    | late blocked' unknown due => simp [find?_finish] at unfinished
  · intro early name isBlocked
    obtain ⟨a, blocked⟩ := Option.isSome_iff_exists.mp isBlocked
    obtain ⟨unknown, undue⟩ := early name a blocked
    obtain ⟨w, found, _⟩ := Option.bind_eq_some_iff.mp blocked
    have polled := distinct.polled (started_of_blocked isBlocked)
    generalize r.poll name = r' at polled
    cases polled with
    | still nothing => simp [found]
    | told blocked' known =>
      rw [blocked, Option.some.injEq] at blocked'
      rw [← blocked', unknown] at known
      cases known
    | late blocked' _ due =>
      rw [blocked, Option.some.injEq] at blocked'
      rw [← blocked', undue] at due
      cases due

/-- A poll makes nobody arrive who had not. -/
private theorem Distinct.blocked_of_poll (distinct : r.Distinct) (started : r.Started name) {other : Name} {a : Arrival}
    (blocked : (r.poll name).blocked other = some a) : r.blocked other = some a := by
  rcases (distinct.polled started).same_or_finish with same | ⟨result, barrier, meter, finished⟩
  · rwa [same] at blocked
  · rw [finished, blocked_finish] at blocked
    split at blocked
    · cases blocked
    · exact blocked

private theorem Distinct.now_poll (distinct : r.Distinct) (started : r.Started name) : (r.poll name).now = r.now := by
  rcases (distinct.polled started).same_or_finish with same | ⟨result, barrier, meter, finished⟩
  · rw [same]
  · rw [finished]
    rfl

private theorem Distinct.started_poll (distinct : r.Distinct) (started : r.Started name) {other : Name}
    (started' : r.Started other) : (r.poll name).Started other := by
  intro w found
  rcases (distinct.polled started).same_or_finish with same | ⟨result, barrier, meter, finished⟩
  · exact started' w (same ▸ found)
  · rw [finished, find?_finish] at found
    split at found
    · cases found
    · exact started' w found

section
variable {names : List Name}

/-- Polls of blocked waits can be followed one by one. -/
theorem Distinct.started_cons (distinct : r.Distinct) (started : ∀ n ∈ name :: names, r.Started n) :
    r.Started name ∧ ∀ n ∈ names, (r.poll name).Started n := by
  have first := started name List.mem_cons_self
  exact ⟨first, fun n member => distinct.started_poll first (started n (List.mem_cons_of_mem _ member))⟩

private theorem Distinct.blocked_of_polls (distinct : r.Distinct) (started : ∀ n ∈ names, r.Started n) {other : Name}
    {a : Arrival} (blocked : (r.polls names).blocked other = some a) : r.blocked other = some a := by
  induction names generalizing r with
  | nil => exact blocked
  | cons name names ih =>
    obtain ⟨first, later⟩ := distinct.started_cons started
    exact distinct.blocked_of_poll first (ih (distinct.perform (.poll name)) later blocked)

private theorem Distinct.now_polls (distinct : r.Distinct) (started : ∀ n ∈ names, r.Started n) :
    (r.polls names).now = r.now := by
  induction names generalizing r with
  | nil => rfl
  | cons name names ih =>
    obtain ⟨first, later⟩ := distinct.started_cons started
    exact (ih (distinct.perform (.poll name)) later).trans (distinct.now_poll first)

/-- Who is still blocked after being polled is not due. -/
private theorem Distinct.early_of_polls (distinct : r.Distinct) (started : ∀ n ∈ names, r.Started n)
    (member : name ∈ names) {a : Arrival} (blocked : (r.polls names).blocked name = some a) :
    a.deadline.any (· ≤ r.now) = false := by
  induction names generalizing r with
  | nil => cases member
  | cons n names ih =>
    obtain ⟨first, later⟩ := distinct.started_cons started
    have distinct' : (r.poll n).Distinct := distinct.perform (.poll n)
    rcases List.mem_cons.mp member with rfl | member
    · -- It survived its own poll, and the later ones do not move the clock.
      have survived := distinct'.blocked_of_polls later blocked
      have polled := distinct.polled first
      generalize r.poll name = r' at polled survived
      cases polled with
      | still nothing => exact (nothing a survived).2
      | told _ _ => simp [blocked_finish] at survived
      | late _ _ _ => simp [blocked_finish] at survived
    · rw [← distinct.now_poll first]
      exact ih distinct' later member blocked

/-- Where nobody is due, polls settle nothing, and who is still blocked after one was not told anything. -/
private theorem Distinct.polls_of_early (distinct : r.Distinct) (started : ∀ n ∈ names, r.Started n)
    (early : ∀ name a, r.blocked name = some a → a.deadline.any (· ≤ r.now) = false) :
    (r.polls names).barrier = r.barrier ∧
      ∀ name ∈ names, ∀ a, (r.polls names).blocked name = some a → r.barrier.outcome? a.generation = none := by
  induction names generalizing r with
  | nil => exact ⟨rfl, by simp⟩
  | cons n names ih =>
    obtain ⟨first, later⟩ := distinct.started_cons started
    have distinct' : (r.poll n).Distinct := distinct.perform (.poll n)
    obtain ⟨barrier, untold⟩ := ih distinct' later fun name a blocked => by
      rw [distinct.now_poll first]
      exact early name a (distinct.blocked_of_poll first blocked)
    have same : (r.poll n).barrier = r.barrier ∧
        ∀ a, (r.poll n).blocked n = some a → r.barrier.outcome? a.generation = none := by
      have polled := distinct.polled first
      generalize r.poll n = r' at polled
      cases polled with
      | still nothing => exact ⟨rfl, fun a blocked => (nothing a blocked).1⟩
      | told _ _ => exact ⟨rfl, fun a blocked => by simp [blocked_finish] at blocked⟩
      | late blocked _ due =>
        rw [early n _ blocked] at due
        cases due
    refine ⟨barrier.trans same.1, fun name member a blocked => ?_⟩
    rcases List.mem_cons.mp member with rfl | member
    · exact same.2 a (distinct'.blocked_of_polls later blocked)
    · rw [← same.1]
      exact untold name member a blocked

private theorem Round.started (round : r.Round names) : ∀ n ∈ names, r.Started n :=
  fun n member => started_of_blocked ((round n).mp member)

end

/-- When every blocked wait has been polled, nobody is due any more; when those left have been polled once more, who
    is still blocked stays so. -/
theorem Valid.atRest_of_rounds (valid : r.Valid) {first second : List Name} (round : r.Round first)
    (round' : (r.polls first).Round second) : ((r.polls first).polls second).AtRest := by
  have valid' := valid.polls first
  have early : ∀ name a, (r.polls first).blocked name = some a →
      a.deadline.any (· ≤ (r.polls first).now) = false := by
    intro name a blocked
    have before := valid.distinct.blocked_of_polls round.started blocked
    rw [valid.distinct.now_polls round.started]
    exact valid.distinct.early_of_polls round.started ((round name).mpr (by simp [before])) blocked
  obtain ⟨barrier, untold⟩ := valid'.distinct.polls_of_early round'.started early
  refine (valid'.polls second).distinct.atRest_iff.mpr fun name a blocked => ?_
  have before := valid'.distinct.blocked_of_polls round'.started blocked
  rw [barrier, valid'.distinct.now_polls round'.started]
  exact ⟨untold name ((round' name).mpr (by simp [before])) a blocked, early name a before⟩

end Run
end Lockstep.Barrier
