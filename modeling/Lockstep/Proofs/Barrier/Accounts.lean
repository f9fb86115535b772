import Lockstep.Proofs.Barrier.Deadlines
import Mathlib.Data.Finset.Card

namespace Lockstep.Barrier

variable {Name : Type}

/-! ### What is seen of a barrier -/

/-- What can break a generation. -/
inductive Cause where
  /-- A party whose time is over finds the generation unreleased. -/
  | timeout
  | abort
  /-- A blocked party goes away, and the policy is to break. -/
  | abandonment
  /-- The barrier is reset while parties are blocked. -/
  | reset
  deriving DecidableEq, Repr

inductive Incident (Name : Type) where
  | wait (event : Event Name)
  /-- This breaks the generation, if it is not broken already. -/
  | hit (generation : Nat) (cause : Cause)
  /-- The barrier was reset in this generation. -/
  | reset (generation : Nat)
  deriving DecidableEq, Repr

namespace Incident

/-- The generation that a party is told here is released. -/
def released? : Incident Name → Option Nat
  | .wait (.returned _ g (.released _)) => some g
  | _ => none

/-- The generation that is broken after this, if it was not before. -/
def broken? : Incident Name → Option Nat
  | .hit g _ => some g
  | _ => none

def isReset : Incident Name → Bool
  | .reset _ => true
  | _ => false

end Incident

def releasedIn (shown : List (Incident Name)) : List Nat :=
  shown.filterMap Incident.released?

def brokenIn (shown : List (Incident Name)) : List Nat :=
  shown.filterMap Incident.broken?

def resetsIn (shown : List (Incident Name)) : Nat :=
  shown.countP Incident.isReset

private theorem releasedIn_append (shown more : List (Incident Name)) :
    releasedIn (shown ++ more) = releasedIn shown ++ releasedIn more :=
  List.filterMap_append

private theorem brokenIn_append (shown more : List (Incident Name)) :
    brokenIn (shown ++ more) = brokenIn shown ++ brokenIn more :=
  List.filterMap_append

private theorem resetsIn_append (shown more : List (Incident Name)) :
    resetsIn (shown ++ more) = resetsIn shown + resetsIn more :=
  List.countP_append

/-- A wait breaks nothing by itself. -/
private theorem brokenIn_waits (events : List (Event Name)) : brokenIn (events.map .wait) = [] := by
  simp [brokenIn, List.filterMap_map, Function.comp_def, Incident.broken?]

private theorem resetsIn_waits (events : List (Event Name)) : resetsIn (events.map .wait) = 0 := by
  simp [resetsIn, List.countP_map, Function.comp_def, Incident.isReset]

/-- The generation is hit, if this is so. -/
def hitIf (so : Bool) (g : Nat) (cause : Cause) : List (Incident Name) :=
  if so then [.hit g cause] else []

section
variable (so : Bool) (g : Nat) (cause : Cause)

@[simp] theorem releasedIn_hitIf : releasedIn (hitIf so g cause : List (Incident Name)) = [] := by
  cases so <;> rfl

@[simp] theorem brokenIn_hitIf : brokenIn (hitIf so g cause : List (Incident Name)) = if so then [g] else [] := by
  cases so <;> rfl

@[simp] theorem resetsIn_hitIf : resetsIn (hitIf so g cause : List (Incident Name)) = 0 := by
  cases so <;> rfl

@[simp] theorem wait_not_mem_hitIf (event : Event Name) : .wait event ∉ hitIf so g cause := by
  cases so <;> simp [hitIf]

end

/-- The generation is over, and its parties were released. -/
def hasReleased (b : Barrier) (g : Nat) : Bool :=
  match b.outcome? g with
  | some (.released _) => true
  | _ => false

/-- The time of the wait is over, and its generation is still not released. -/
def timesOut (b : Barrier) (now : Nat) (w : Wait) : Bool :=
  (w.deadline now).any (· ≤ now) && !(b.poll now w).1.hasReleased (w.generation b)

/-- The wait is given up in the generation in which it arrived, and the policy is to break. -/
def deserts (b : Barrier) (w : Wait) : Bool :=
  b.options.policy = .breakGeneration && w.arrival.any (·.generation = b.generation)

def pollIncidents (b : Barrier) (now : Nat) (name : Name) (w : Wait) : List (Incident Name) :=
  (b.pollEvents now name w).map .wait ++ hitIf (b.timesOut now w) (w.generation b) .timeout

def dropIncidents (b : Barrier) (name : Name) (w : Wait) : List (Incident Name) :=
  (dropEvents name w).map .wait ++ hitIf (b.deserts w) b.generation .abandonment

def abortIncidents (b : Barrier) : List (Incident Name) :=
  [.hit b.generation .abort]

def resetIncidents (b : Barrier) : List (Incident Name) :=
  hitIf (b.waiting ≠ []) b.generation .reset ++ [.reset b.generation]

/-! ### Accounts -/

/-- How a barrier stands to the generations known to be released, and to those known to be broken. -/
structure Account (b : Barrier) (blocked : Blocked Name) (R B : Nat → Prop) : Prop where
  released : ∀ g, R g ↔ ∃ tickets, b.outcome? g = some (.released tickets)
  broken : ∀ {g}, B g → b.outcome? g = some .broken
  current : b.broken = true → B b.generation
  /-- A generation that failed its parties is known to be broken. -/
  told : ∀ {name a}, blocked name = some a → b.outcome? a.generation = some .broken → B a.generation

/-- Of these generations all were known before, or there is one and it is new. -/
inductive Adds (known : Nat → Prop) : List Nat → Nat → Prop
  | nothing {gs} : (∀ g ∈ gs, known g) → Adds known gs 0
  | new {g} : ¬known g → Adds known [g] 1

variable {b b' : Barrier} {blocked blocked' : Blocked Name} {R B R' B' : Nat → Prop} {name : Name} {w : Wait}
  {a : Arrival}

/-- An outcome is added to an open generation. -/
private theorem outcome?_settled (sound : Sound b blocked) (unbroken : b.broken = false) (b' : Barrier)
    {outcome : Outcome} (settles : b'.outcomes = b.outcomes.push outcome) (g : Nat) :
    b'.outcome? g = if g = b.generation then some outcome else b.outcome? g := by
  have size : b.outcomes.size = b.generation := by simpa [unbroken] using sound.settled
  simp [outcome?, settles, Array.getElem?_push, size]

namespace Account

theorem fresh {o : Options} : Account { options := o } (fun _ : Name => none) (fun _ => False) (fun _ => False) where
  released := by simp [outcome?]
  broken := False.elim
  current := by simp
  told := by simp

theorem congr (account : Account b blocked R B) (released : ∀ g, R' g ↔ R g) (broken : ∀ g, B' g ↔ B g) :
    Account b blocked R' B' := by
  obtain rfl : R' = R := funext fun g => propext (released g)
  obtain rfl : B' = B := funext fun g => propext (broken g)
  exact account

/-- Nothing is settled, and who is blocked was so before or is of an open generation. -/
private theorem still (account : Account b blocked R B) (generation : b'.generation = b.generation)
    (broken : b'.broken = b.broken) (outcomes : b'.outcomes = b.outcomes)
    (fewer : ∀ {name a}, blocked' name = some a → b.outcome? a.generation = some .broken → blocked name = some a) :
    Account b' blocked' R B := by
  have same : ∀ g, b'.outcome? g = b.outcome? g := fun g => by simp only [outcome?, outcomes]
  refine ⟨?_, ?_, ?_, ?_⟩
  · intro g
    rw [same]
    exact account.released g
  · intro g known
    rw [same]
    exact account.broken known
  · intro now
    rw [generation]
    exact account.current (broken ▸ now)
  · intro name a arrived settled
    rw [same] at settled
    exact account.told (fewer arrived settled) settled

private theorem unknown_of_open (account : Account b blocked R B) (sound : Sound b blocked)
    (unbroken : b.broken = false) : ¬R b.generation ∧ ¬B b.generation := by
  have unknown := sound.unknown_of_unbroken unbroken
  constructor
  · intro released
    obtain ⟨tickets, settled⟩ := (account.released _).mp released
    simp [unknown] at settled
  · intro broken
    have settled := account.broken broken
    simp [unknown] at settled

/-- The break of an open generation releases none. -/
private theorem released_after_break (account : Account b blocked R B) (sound : Sound b blocked)
    (unbroken : b.broken = false) (settles : b'.outcomes = b.outcomes.push .broken) (g : Nat) :
    R g ↔ ∃ tickets, b'.outcome? g = some (.released tickets) := by
  rw [outcome?_settled sound unbroken b' settles, account.released]
  by_cases here : g = b.generation
  · have unreleased := (account.unknown_of_open sound unbroken).1
    rw [account.released] at unreleased
    subst here
    simpa using unreleased
  · rw [if_neg here]

private theorem broken_after_break (account : Account b blocked R B) (sound : Sound b blocked)
    (unbroken : b.broken = false) (settles : b'.outcomes = b.outcomes.push .broken) {g : Nat} (known : B g) :
    b'.outcome? g = some .broken := by
  rw [outcome?_settled sound unbroken b' settles]
  split
  · rfl
  · exact account.broken known

/-- The current generation is broken. -/
private theorem breaks (account : Account b blocked R B) (sound : Sound b blocked) (unbroken : b.broken = false)
    (generation : b'.generation = b.generation) (settles : b'.outcomes = b.outcomes.push .broken)
    (fewer : ∀ {name a}, blocked' name = some a → blocked name = some a) :
    Account b' blocked' R (fun g => B g ∨ g = b.generation) where
  released := account.released_after_break sound unbroken settles
  broken := by
    rintro g (known | rfl)
    · exact account.broken_after_break sound unbroken settles known
    · rw [outcome?_settled sound unbroken b' settles, if_pos rfl]
  current := fun _ => .inr generation
  told := by
    intro name a arrived broken
    by_cases here : a.generation = b.generation
    · exact .inr here
    · rw [outcome?_settled sound unbroken b' settles, if_neg here] at broken
      exact .inl (account.told (fewer arrived) broken)

/-- The current generation is released. -/
private theorem releases (account : Account b blocked R B) (sound : Sound b blocked) (unbroken : b.broken = false)
    (fewer : ∀ {name a}, blocked' name = some a → blocked name = some a) :
    Account b.released blocked' (fun g => R g ∨ g = b.generation) B := by
  have settled := outcome?_settled sound unbroken b.released rfl
  refine ⟨?_, ?_, by simp [Barrier.released, Barrier.advance], ?_⟩
  · intro g
    rw [settled]
    by_cases here : g = b.generation
    · simp [here]
    · simp [here, account.released]
  · intro g known
    have other : g ≠ b.generation := by
      rintro rfl
      exact (account.unknown_of_open sound unbroken).2 known
    rw [settled, if_neg other]
    exact account.broken known
  · intro name a arrived broken
    rw [settled] at broken
    split at broken
    · cases broken
    · exact account.told (fewer arrived) broken

private theorem advance (account : Account b blocked R B) : Account b.advance blocked R B where
  released := account.released
  broken := account.broken
  current := by simp [Barrier.advance]
  told := account.told

/-- An open generation in which nobody is blocked is passed over: it counts neither as released nor as broken. -/
private theorem passes (account : Account b blocked R B) (sound : Sound b blocked) (unbroken : b.broken = false)
    (empty : b.waiting = []) : Account b.abort.1.advance blocked R B where
  released := account.released_after_break sound unbroken (outcomes_abort unbroken)
  broken := account.broken_after_break sound unbroken (outcomes_abort unbroken)
  current := by simp [Barrier.advance]
  told := by
    intro name a arrived broken
    by_cases here : a.generation = b.generation
    · have counted := sound.counted unbroken arrived here
      simp [empty] at counted
    · rw [outcome?_settled sound unbroken b.abort.1.advance (outcomes_abort unbroken), if_neg here] at broken
      exact account.told arrived broken

end Account

/-! ### Operations -/

/-- What an operation shows agrees with what it counts, and the account goes on. -/
structure Books (b : Barrier) (blocked : Blocked Name) (R B : Nat → Prop) (b' : Barrier) (blocked' : Blocked Name)
    (m : Meter) (shown : List (Incident Name)) : Prop where
  account : Account b' blocked' (fun g => R g ∨ g ∈ releasedIn shown) (fun g => B g ∨ g ∈ brokenIn shown)
  releases : Adds R (releasedIn shown) m.releases
  breaks : Adds B (brokenIn shown) m.breaks
  generation : b'.generation = b.generation + m.releases + resetsIn shown
  /-- Who finds a broken barrier finds a generation that counts as broken. -/
  told : ∀ {name g why}, .wait (.returned name g (.failed why)) ∈ shown → why.fault.kind = .barrierBroken →
    B g ∨ g ∈ brokenIn shown

section
variable {m : Meter} {shown : List (Incident Name)}

private theorem Books.still (account : Account b' blocked' R B) (released : ∀ g ∈ releasedIn shown, R g)
    (broken : ∀ g ∈ brokenIn shown, B g) (counts : m.releases = 0 ∧ m.breaks = 0)
    (generation : b'.generation = b.generation + resetsIn shown)
    (told : ∀ {name g why}, .wait (.returned name g (.failed why)) ∈ shown → why.fault.kind = .barrierBroken → B g) :
    Books b blocked R B b' blocked' m shown where
  account := account.congr (fun g => or_iff_left_of_imp (released g)) fun g => or_iff_left_of_imp (broken g)
  releases := counts.1 ▸ .nothing released
  breaks := counts.2 ▸ .nothing broken
  generation := by rw [generation, counts.1, Nat.add_zero]
  told := fun failed kind => .inl (told failed kind)

private theorem Books.breaking (account : Account b' blocked' R fun g => B g ∨ g = b.generation) (new : ¬B b.generation)
    (released : releasedIn shown = []) (broken : brokenIn shown = [b.generation])
    (counts : m.releases = 0 ∧ m.breaks = 1) (generation : b'.generation = b.generation + resetsIn shown)
    (told : ∀ {name g why}, .wait (.returned name g (.failed why)) ∈ shown → g = b.generation) :
    Books b blocked R B b' blocked' m shown where
  account := account.congr (by simp [released]) (by simp [broken])
  releases := by
    rw [released, counts.1]
    exact .nothing (by simp)
  breaks := by
    rw [broken, counts.2]
    exact .new new
  generation := by rw [generation, counts.1, Nat.add_zero]
  told := fun failed _ => .inr (by simp [broken, told failed])

private theorem Books.releasing (account : Account b' blocked' (fun g => R g ∨ g = b.generation) B)
    (new : ¬R b.generation) (released : releasedIn shown = [b.generation]) (broken : brokenIn shown = [])
    (counts : m.releases = 1 ∧ m.breaks = 0) (generation : b'.generation = b.generation + 1)
    (unreset : resetsIn shown = 0) (told : ∀ {name g why}, .wait (.returned name g (.failed why)) ∉ shown) :
    Books b blocked R B b' blocked' m shown where
  account := account.congr (by simp [released]) (by simp [broken])
  releases := by
    rw [released, counts.1]
    exact .new new
  breaks := by
    rw [broken, counts.2]
    exact .nothing (by simp)
  generation := by rw [generation, counts.1, unreset]
  told := fun failed => absurd failed told

end

theorem abort_books (account : Account b blocked R B) (sound : Sound b blocked) :
    Books b blocked R B b.abort.1 blocked b.abort.2 b.abortIncidents := by
  cases broken : b.broken with
  | true =>
    have known := account.current broken
    rw [abort_of_broken broken]
    refine .still account (by simp [abortIncidents, releasedIn, Incident.released?]) ?_ ⟨rfl, rfl⟩ rfl ?_
    · simpa [abortIncidents, brokenIn, Incident.broken?] using known
    · simp [abortIncidents]
  | false =>
    have opened := account.breaks sound broken b.generation_abort (outcomes_abort broken) id
    refine .breaking opened (account.unknown_of_open sound broken).2 rfl rfl ?_ b.generation_abort ?_
    · simp [abort, broken]
    · simp [abortIncidents]

theorem reset_books (account : Account b blocked R B) (sound : Sound b blocked) :
    Books b blocked R B b.reset.1 blocked b.reset.2 b.resetIncidents := by
  cases empty : b.waiting with
  | nil =>
    have counts : b.reset.2 = {} := by simp [reset, empty]
    have shown : (b.resetIncidents : List (Incident Name)) = [.reset b.generation] := by
      simp [resetIncidents, hitIf, empty]
    have kept : Account b.reset.1 blocked R B := by
      rw [reset_eq]
      cases broken : b.broken with
      | true =>
        rw [abort_of_broken broken]
        exact account.advance
      | false => exact account.passes sound broken empty
    have generation : b.reset.1.generation = b.generation + 1 := congrArg Status.generation (Run.status_reset b)
    rw [counts, shown]
    exact .still kept (by simp [releasedIn, Incident.released?]) (by simp [brokenIn, Incident.broken?]) ⟨rfl, rfl⟩
      generation (by simp)
  | cons t ts =>
    have unbroken : b.broken = false := by
      refine Bool.eq_false_iff.mpr fun broken => ?_
      rw [sound.emptied broken] at empty
      cases empty
    have counts : b.reset.2 = { breaks := 1 } := by simp [reset, empty, abort, unbroken]
    have shown : (b.resetIncidents : List (Incident Name)) = [.hit b.generation .reset, .reset b.generation] := by
      simp [resetIncidents, hitIf, empty]
    have opened := account.breaks sound unbroken b.generation_abort (outcomes_abort unbroken) id
    rw [counts, shown, reset_eq]
    refine .breaking opened.advance (account.unknown_of_open sound unbroken).2 rfl rfl ⟨rfl, rfl⟩ ?_ (by simp)
    simp [advance, resetsIn, Incident.isReset]

/-! ### Giving a wait up -/

private theorem releasedIn_drop (b : Barrier) (name : Name) (w : Wait) : releasedIn (b.dropIncidents name w) = [] := by
  rw [dropIncidents, releasedIn_append, releasedIn_hitIf, List.append_nil]
  cases arrival : w.arrival <;> simp [dropEvents, arrival, releasedIn, Incident.released?]

private theorem brokenIn_drop (b : Barrier) (name : Name) (w : Wait) :
    brokenIn (b.dropIncidents name w) = if b.deserts w then [b.generation] else [] := by
  rw [dropIncidents, brokenIn_append, brokenIn_waits, List.nil_append, brokenIn_hitIf]

private theorem resetsIn_drop (b : Barrier) (name : Name) (w : Wait) : resetsIn (b.dropIncidents name w) = 0 := by
  rw [dropIncidents, resetsIn_append, resetsIn_waits, resetsIn_hitIf]

private theorem unreturned_drop (b : Barrier) {name other : Name} {g : Nat} {result : Result} :
    .wait (.returned other g result) ∉ b.dropIncidents name w := by
  cases arrival : w.arrival <;> simp [dropIncidents, dropEvents, arrival]

section
variable [DecidableEq Name]

/-- A wait that settles nothing when it is given up deserts no generation but a broken one. -/
private theorem drop_still {m : Meter} (account : Account b blocked R B) (generation : b'.generation = b.generation)
    (broken : b'.broken = b.broken) (outcomes : b'.outcomes = b.outcomes) (counts : m.releases = 0 ∧ m.breaks = 0)
    (deserted : b.deserts w = true → B b.generation) :
    Books b blocked R B b' (Function.update blocked name none) m (b.dropIncidents name w) := by
  have kept : Account b' (Function.update blocked name none) R B :=
    account.still generation broken outcomes fun found _ => (blocked_of_update_none found).2
  refine .still kept ?_ ?_ counts ?_ ?_
  · simp [releasedIn_drop]
  · intro g hit
    rw [brokenIn_drop] at hit
    split at hit
    · rename_i gone
      rw [List.mem_singleton.mp hit]
      exact deserted gone
    · cases hit
  · rw [resetsIn_drop]
    exact generation
  · intro other g why told
    exact absurd told b.unreturned_drop

theorem drop_books (account : Account b blocked R B) (sound : Sound b blocked) :
    Books b blocked R B (b.drop w).1 (Function.update blocked name none) (b.drop w).2 (b.dropIncidents name w) := by
  cases arrival : w.arrival with
  | none =>
    have dropped : b.drop w = (b, {}) := by simp [drop, arrival]
    have stays : b.deserts w = false := by simp [deserts, arrival]
    rw [dropped]
    exact drop_still account rfl rfl rfl ⟨rfl, rfl⟩ (by simp [stays])
  | some a =>
    have dropped : b.drop w = ((b.leave a).1, (b.leave a).2 + { waiting := -1 }) := by simp [drop, arrival]
    have deserts_iff : b.deserts w = true ↔ b.options.policy = .breakGeneration ∧ a.generation = b.generation := by
      simp [deserts, arrival]
    rw [dropped]
    by_cases past : b.generation ≠ a.generation ∨ b.broken = true
    · rw [leave_past past]
      refine drop_still account rfl rfl rfl ⟨rfl, rfl⟩ ?_
      intro gone
      rcases past with other | broken
      · exact absurd (deserts_iff.mp gone).2.symm other
      · exact account.current broken
    · obtain ⟨here, unbroken⟩ : b.generation = a.generation ∧ b.broken = false := by simpa using past
      cases policy : b.options.policy with
      | breakGeneration =>
        have gone : b.deserts w = true := deserts_iff.mpr ⟨policy, here.symm⟩
        have opened : Account b.abort.1 (Function.update blocked name none) R fun g => B g ∨ g = b.generation :=
          account.breaks sound unbroken b.generation_abort (outcomes_abort unbroken) fun found =>
            (blocked_of_update_none found).2
        rw [leave_break past policy]
        refine .breaking opened (account.unknown_of_open sound unbroken).2 (releasedIn_drop ..) ?_ ?_ ?_ ?_
        · rw [brokenIn_drop, if_pos gone]
        · simp [abort, unbroken]
        · rw [resetsIn_drop]
          exact b.generation_abort
        · intro other g why told
          exact absurd told b.unreturned_drop
      | withdraw =>
        have stays : b.deserts w = false := by simp [deserts, policy]
        rw [leave_withdraw past policy]
        exact drop_still account rfl rfl rfl ⟨rfl, rfl⟩ (by simp [stays])

end

/-! ### Polling -/

private theorem releasedIn_poll (b : Barrier) (now : Nat) (name : Name) (w : Wait) :
    releasedIn (b.pollIncidents now name w) =
      match (b.poll now w).2.1 with
      | .done (.released _) => [w.generation b]
      | _ => [] := by
  rw [pollIncidents, releasedIn_append, releasedIn_hitIf, List.append_nil, pollEvents]
  -- An arrival tells nobody anything.
  cases w.arrival.isNone && !b.broken <;> cases (b.poll now w).2.1 with
  | pending w' => rfl
  | done result => cases result <;> rfl

private theorem brokenIn_poll (b : Barrier) (now : Nat) (name : Name) (w : Wait) :
    brokenIn (b.pollIncidents now name w) = if b.timesOut now w then [w.generation b] else [] := by
  rw [pollIncidents, brokenIn_append, brokenIn_waits, List.nil_append, brokenIn_hitIf]

private theorem resetsIn_poll (b : Barrier) (now : Nat) (name : Name) (w : Wait) :
    resetsIn (b.pollIncidents now name w) = 0 := by
  rw [pollIncidents, resetsIn_append, resetsIn_waits, resetsIn_hitIf]

/-- What a poll tells is told to the wait that is polled. -/
private theorem returned_poll {now : Nat} {other : Name} {g : Nat} {result : Result}
    (shown : .wait (.returned other g result) ∈ b.pollIncidents now name w) :
    g = w.generation b ∧ (b.poll now w).2.1 = .done result := by
  have event : .returned other g result ∈ b.pollEvents now name w := by
    simpa [pollIncidents] using shown
  unfold pollEvents at event
  cases polled : (b.poll now w).2.1 with
  | pending w' =>
    rw [polled] at event
    cases first : w.arrival.isNone && !b.broken <;> simp [first] at event
  | done result' =>
    rw [polled] at event
    have same : other = name ∧ g = w.generation b ∧ result = result' := by
      cases first : w.arrival.isNone && !b.broken <;> simpa [first] using event
    exact ⟨same.2.1, by rw [same.2.2]⟩

section
variable [DecidableEq Name] {now : Nat} {polled : Poll} {m : Meter}

/-- A poll that settles nothing tells of generations that are known. -/
private theorem poll_still (account : Account b blocked R B) (eq : b.poll now w = (b', polled, m))
    (generation : b'.generation = b.generation) (broken : b'.broken = b.broken) (outcomes : b'.outcomes = b.outcomes)
    (counts : m.releases = 0 ∧ m.breaks = 0)
    (fewer : ∀ {a}, polled.arrival = some a → b.outcome? a.generation ≠ some .broken)
    (freed : ∀ {i}, polled = .done (.released i) → R (w.generation b))
    (failed : ∀ {why}, polled = .done (.failed why) → why.fault.kind = .barrierBroken → B (w.generation b))
    (late : b.timesOut now w = true → B (w.generation b)) :
    Books b blocked R B b' (Function.update blocked name polled.arrival) m (b.pollIncidents now name w) := by
  have kept : Account b' (Function.update blocked name polled.arrival) R B := by
    apply account.still generation broken outcomes
    intro other a found settled
    by_cases same : other = name
    · subst same
      rw [Function.update_self] at found
      exact absurd settled (fewer found)
    · simpa [same] using found
  refine .still kept ?_ ?_ counts ?_ ?_
  · intro g released
    rw [releasedIn_poll, eq] at released
    split at released
    · rename_i i result
      rw [List.mem_singleton.mp released]
      exact freed result
    · cases released
  · intro g hit
    rw [brokenIn_poll] at hit
    split at hit
    · rename_i overdue
      rw [List.mem_singleton.mp hit]
      exact late overdue
    · cases hit
  · rw [resetsIn_poll]
    exact generation
  · intro other g why told kind
    obtain ⟨rfl, result⟩ := returned_poll told
    rw [eq] at result
    exact failed result kind

/-- A poll that is late breaks the current generation. -/
private theorem poll_breaking (account : Account b blocked R B) (sound : Sound b blocked) (unbroken : b.broken = false)
    (current : w.generation b = b.generation) (due : (w.deadline now).any (· ≤ now) = true)
    (eq : b.poll now w = (b', .done (.failed (.brokenDuring (w.generation b))), m))
    (generation : b'.generation = b.generation) (settles : b'.outcomes = b.outcomes.push .broken)
    (counts : m.releases = 0 ∧ m.breaks = 1) :
    Books b blocked R B b' (Function.update blocked name none) m (b.pollIncidents now name w) := by
  have unreleased : b'.hasReleased (w.generation b) = false := by
    rw [hasReleased, current, outcome?_settled sound unbroken b' settles, if_pos rfl]
  have late : b.timesOut now w = true := by simp [timesOut, due, eq, unreleased]
  have opened : Account b' (Function.update blocked name none) R fun g => B g ∨ g = b.generation :=
    account.breaks sound unbroken generation settles fun found => (blocked_of_update_none found).2
  refine .breaking opened (account.unknown_of_open sound unbroken).2 ?_ ?_ counts ?_ ?_
  · rw [releasedIn_poll, eq]
  · rw [brokenIn_poll, if_pos late, current]
  · rw [resetsIn_poll]
    exact generation
  · intro other g why told
    rw [← current]
    exact (returned_poll told).1

/-- The last party of a generation is told of its release, as the first. -/
private theorem poll_releasing (account : Account b blocked R B) (sound : Sound b blocked) (unbroken : b.broken = false)
    (current : w.generation b = b.generation) {i : Nat}
    (eq : b.poll now w = (b.released, .done (.released i), { releases := 1 })) :
    Books b blocked R B b.released (Function.update blocked name none) { releases := 1 }
      (b.pollIncidents now name w) := by
  have freed : b.released.hasReleased (w.generation b) = true := by
    rw [hasReleased, current, outcome?_settled sound unbroken b.released rfl, if_pos rfl]
  have intime : b.timesOut now w = false := by simp [timesOut, eq, freed]
  have settled : Account b.released (Function.update blocked name none) (fun g => R g ∨ g = b.generation) B :=
    account.releases sound unbroken fun found => (blocked_of_update_none found).2
  refine .releasing settled (account.unknown_of_open sound unbroken).1 ?_ ?_ ⟨rfl, rfl⟩ rfl (resetsIn_poll ..) ?_
  · rw [releasedIn_poll, eq, current]
  · rw [brokenIn_poll, intime]
    rfl
  · intro other g why told
    obtain ⟨_, result⟩ := returned_poll told
    rw [eq] at result
    cases result

/-- What a party is told of a generation that has an outcome. -/
private theorem freed_of_result {outcome : Outcome} {i : Nat} (told : outcome.result a = .released i) :
    ∃ tickets, outcome = .released tickets := by
  cases outcome with
  | released tickets => exact ⟨tickets, rfl⟩
  | broken => cases told

private theorem broken_of_result {outcome : Outcome} {why : Failure} (told : outcome.result a = .failed why)
    (kind : why.fault.kind = .barrierBroken) : outcome = .broken := by
  cases outcome with
  | broken => rfl
  | released tickets =>
    simp only [Outcome.result] at told
    split at told
    · cases told
    · cases told
      cases kind

/-- A blocked party looks after its generation. -/
private theorem pollBlocked_books (account : Account b blocked R B) (sound : Sound b blocked)
    (arrived : blocked name = some a) (arrival : w.arrival = some a) (now : Nat) :
    Books b blocked R B (b.poll now w).1 (Function.update blocked name (b.poll now w).2.1.arrival)
      (b.poll now w).2.2 (b.pollIncidents now name w) := by
  have here : w.generation b = a.generation := by simp [Wait.generation, arrival]
  have time : w.deadline now = a.deadline := by simp [Wait.deadline, arrival]
  have polls : b.poll now w = b.pollBlocked now w a := by simp [poll, arrival]
  rcases pollBlocked_cases b now w a with ⟨outcome, settled, eq⟩ | ⟨unknown, due, eq⟩ | ⟨unknown, early, eq⟩
  · rw [← polls] at eq
    rw [eq]
    refine poll_still account eq rfl rfl rfl ⟨rfl, rfl⟩ (by simp [Poll.arrival]) ?_ ?_ ?_
    · intro i told
      obtain ⟨tickets, rfl⟩ := freed_of_result (Poll.done.inj told)
      exact (account.released _).mpr ⟨tickets, here ▸ settled⟩
    · intro why told kind
      obtain rfl := broken_of_result (Poll.done.inj told) kind
      exact here ▸ account.told arrived settled
    · intro late
      cases outcome with
      | broken => exact here ▸ account.told arrived settled
      | released tickets => simp [timesOut, eq, hasReleased, here, settled] at late
  · obtain ⟨current, unbroken⟩ := sound.current_of_unknown arrived unknown
    rw [← polls, ← here] at eq
    rw [eq]
    refine poll_breaking account sound unbroken (here.trans current.symm) (time ▸ due) eq b.generation_abort
      (outcomes_abort unbroken) ?_
    simp [abort, unbroken]
  · rw [← polls] at eq
    rw [eq]
    refine poll_still account eq rfl rfl rfl ⟨rfl, rfl⟩ (by simp [Poll.arrival, unknown]) (by simp) (by simp) ?_
    simp [timesOut, time, early]

/-- A party arrives, and looks after its generation unless it is the last. -/
private theorem arrive_books (account : Account b blocked R B) (sound : Sound b blocked) (arrival : w.arrival = none)
    (now : Nat) :
    Books b blocked R B (b.poll now w).1 (Function.update blocked name (b.poll now w).2.1.arrival)
      (b.poll now w).2.2 (b.pollIncidents now name w) := by
  have here : w.generation b = b.generation := by simp [Wait.generation, arrival]
  have time : w.deadline now = w.timeout.map (now + ·) := by simp [Wait.deadline, arrival]
  have polls : b.poll now w = b.arrive now w := by simp [poll, arrival]
  rcases arrive_cases b now w with ⟨broken, eq⟩ | ⟨unbroken, last, eq⟩ | ⟨unbroken, room, a, rfl, eq⟩
  · rw [← polls] at eq
    rw [eq]
    have known : B (w.generation b) := here ▸ account.current broken
    exact poll_still account eq rfl rfl rfl ⟨rfl, rfl⟩ (by simp [Poll.arrival]) (by simp) (fun _ _ => known)
      fun _ => known
  · rw [← polls] at eq
    rw [eq]
    exact poll_releasing account sound unbroken here eq
  · have unknown : b.joined.outcome? b.generation = none := sound.unknown_of_unbroken unbroken
    rw [← polls] at eq
    rcases pollBlocked_cases b.joined now w ⟨b.generation, b.nextTicket, w.timeout.map (now + ·)⟩ with
      ⟨_, settled, _⟩ | ⟨_, due, looks⟩ | ⟨_, early, looks⟩
    · rw [unknown] at settled
      cases settled
    · rw [looks] at eq
      simp only [← here] at eq
      rw [eq]
      refine poll_breaking account sound unbroken here (time ▸ due) eq b.joined.generation_abort
        (outcomes_abort (b := b.joined) unbroken) ?_
      simp [abort, joined, unbroken]
    · rw [looks] at eq
      rw [eq]
      refine poll_still account eq rfl rfl rfl ⟨rfl, rfl⟩ ?_ (by simp) (by simp) ?_
      · simp [Poll.arrival, sound.unknown_of_unbroken unbroken]
      · intro late
        rw [timesOut, time, early] at late
        cases late

theorem poll_books (account : Account b blocked R B) (sound : Sound b blocked) (known : blocked name = w.arrival)
    (now : Nat) :
    Books b blocked R B (b.poll now w).1 (Function.update blocked name (b.poll now w).2.1.arrival)
      (b.poll now w).2.2 (b.pollIncidents now name w) := by
  cases arrival : w.arrival with
  | some a => exact pollBlocked_books account sound (known.trans arrival) arrival now
  | none => exact arrive_books account sound arrival now

/-! ### Who is waiting -/

/-- A wait counts from its arrival until it returns or goes away. -/
def Incident.tally (waiting : Finset Name) : Incident Name → Finset Name
  | .wait (.arrived name _) => insert name waiting
  | .wait (.left name _) | .wait (.returned name _ _) => waiting.erase name
  | _ => waiting

/-- Who is waiting when this wait has come to this. -/
def counted (waiting : Finset Name) (name : Name) (after : Option Arrival) : Finset Name :=
  if after.isSome then insert name waiting else waiting.erase name

variable {waiting : Finset Name}

theorem tally_hitIf (so : Bool) (g : Nat) (cause : Cause) :
    (hitIf so g cause).foldl Incident.tally waiting = waiting := by
  cases so <;> rfl

theorem tally_poll (known : name ∈ waiting ↔ w.arrival.isSome) (now : Nat) :
    (b.pollIncidents now name w).foldl Incident.tally waiting = counted waiting name (b.poll now w).2.1.arrival := by
  rw [pollIncidents, List.foldl_append, tally_hitIf, pollEvents]
  cases polled : (b.poll now w).2.1 with
  | pending w' =>
    obtain ⟨a, still⟩ := arrival_of_pending polled
    cases arrival : w.arrival with
    | none =>
      have unbroken : b.broken = false := by
        refine Bool.eq_false_iff.mpr fun broken => ?_
        simp [poll, arrive, arrival, broken] at polled
      simp [unbroken, counted, Poll.arrival, still, Incident.tally]
    | some before =>
      have present : name ∈ waiting := by simp [known, arrival]
      simp [counted, Poll.arrival, still, Finset.insert_eq_of_mem present]
  | done result =>
    cases w.arrival.isNone && !b.broken <;>
      simp [counted, Poll.arrival, Incident.tally, Finset.erase_insert_eq_erase]

theorem tally_drop (known : name ∈ waiting ↔ w.arrival.isSome) :
    (b.dropIncidents name w).foldl Incident.tally waiting = counted waiting name none := by
  rw [dropIncidents, List.foldl_append, tally_hitIf]
  cases arrival : w.arrival with
  | none =>
    have absent : name ∉ waiting := by simp [known, arrival]
    simp [dropEvents, arrival, counted, absent]
  | some a => simp [dropEvents, arrival, counted, Incident.tally]

theorem card_counted {before : Option Arrival} (known : name ∈ waiting ↔ before.isSome) (after : Option Arrival) :
    ((counted waiting name after).card : Int) = waiting.card + (gauge after - gauge before) := by
  cases before with
  | none =>
    have absent : name ∉ waiting := by simp [known]
    cases after <;> simp [counted, absent]
  | some a =>
    have present : name ∈ waiting := by simp [known]
    cases after with
    | none =>
      have fewer := Finset.card_erase_add_one present
      simp only [counted, Option.isSome_none, Bool.false_eq_true, if_false, gauge_none, gauge_some]
      omega
    | some a' => simp [counted, Finset.insert_eq_of_mem present]

end

end Lockstep.Barrier
