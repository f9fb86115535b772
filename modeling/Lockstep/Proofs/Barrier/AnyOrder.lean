import Lockstep.Proofs.Barrier.AllOrNothing
import Lockstep.Proofs.Barrier.Rest

/-!
# Drops and polls in any order

Drops commute. Polls do not quite, since the first due wait breaks the generation
of the others; but what all blocked waits come to in the end can be computed
beforehand (`concluded`). A poll does not change this (`concluded_poll`), and a
run at rest has come to it (`concluded_of_atRest`), so the order of the polls
leaves no trace but the order of the results.
-/
namespace Lockstep.Barrier

/-- A generation that is over or broken is not opened again by a party that leaves. -/
private theorem past_leave {b : Barrier} {a : Arrival} (past : b.generation ≠ a.generation ∨ b.broken = true)
    (a' : Arrival) : (b.leave a').1.generation ≠ a.generation ∨ (b.leave a').1.broken = true := by
  by_cases past' : b.generation ≠ a'.generation ∨ b.broken = true
  · rwa [leave_past past']
  · cases policy : b.options.policy with
    | breakGeneration =>
      rw [leave_break past' policy]
      exact .inr b.broken_abort
    | withdraw =>
      rw [leave_withdraw past' policy]
      exact past

private theorem leave_comm (b : Barrier) (a a' : Arrival) :
    ((b.leave a).1.leave a').1 = ((b.leave a').1.leave a).1 ∧
      (b.leave a).2 + ((b.leave a).1.leave a').2 = (b.leave a').2 + ((b.leave a').1.leave a).2 := by
  by_cases past : b.generation ≠ a.generation ∨ b.broken = true
  · rw [leave_past past, leave_past (past_leave past a')]
    exact ⟨rfl, by rw [Meter.empty_add, Meter.add_empty]⟩
  · by_cases past' : b.generation ≠ a'.generation ∨ b.broken = true
    · rw [leave_past past', leave_past (past_leave past' a)]
      exact ⟨rfl, by rw [Meter.empty_add, Meter.add_empty]⟩
    · cases policy : b.options.policy with
      | breakGeneration =>
        rw [leave_break past policy, leave_break past' policy, leave_past (.inr b.broken_abort),
          leave_past (.inr b.broken_abort)]
        exact ⟨rfl, rfl⟩
      | withdraw =>
        rw [leave_withdraw past policy, leave_withdraw past' policy,
          leave_withdraw (b := b.withdrawn a.ticket) past' policy,
          leave_withdraw (b := b.withdrawn a'.ticket) past policy]
        exact ⟨by simp [withdrawn, List.filter_filter, Bool.and_comm], rfl⟩

private theorem barrier_drop_comm (b : Barrier) (w w' : Wait) :
    ((b.drop w).1.drop w').1 = ((b.drop w').1.drop w).1 ∧
      (b.drop w).2 + ((b.drop w).1.drop w').2 = (b.drop w').2 + ((b.drop w').1.drop w).2 := by
  cases arrival : w.arrival with
  | none => simp [drop, arrival, Meter.empty_add, Meter.add_empty]
  | some a =>
    cases arrival' : w'.arrival with
    | none => simp [drop, arrival, arrival', Meter.empty_add, Meter.add_empty]
    | some a' =>
      obtain ⟨barrier, meter⟩ := b.leave_comm a a'
      simp only [drop, arrival, arrival']
      refine ⟨barrier, ?_⟩
      have swap : ∀ m m' : Meter, m + { waiting := -1 } + (m' + { waiting := -1 }) =
          m + m' + { waiting := -1 } + { waiting := -1 } := fun m m' => by
        rw [← Meter.add_assoc, Meter.add_right_comm m m' rfl]
      rw [swap, meter, swap]

variable {Name : Type} [DecidableEq Name]

namespace Run

/-- Drops these waits, one after the other. -/
def drops (r : Run Name) (names : List Name) : Run Name :=
  names.foldl drop r

theorem drop_comm (r : Run Name) (name other : Name) : (r.drop name).drop other = (r.drop other).drop name := by
  by_cases same : name = other
  · rw [same]
  · have find : ∀ {one two : Name}, one ≠ two → (r.drop one).find? two = r.find? two := by
      intro one two different
      cases found : r.find? one with
      | none => rw [drop_absent found]
      | some w =>
        rw [drop_found found]
        exact (r.find?_remove one two).trans (if_neg (Ne.symm different))
    cases found : r.find? name with
    | none => rw [drop_absent found, drop_absent (r := r.drop other) ((find (Ne.symm same)).trans found)]
    | some w =>
      cases found' : r.find? other with
      | none => rw [drop_absent found', drop_absent (r := r.drop name) ((find same).trans found')]
      | some w' =>
        obtain ⟨barrier, meter⟩ := r.barrier.barrier_drop_comm w w'
        rw [drop_found ((find same).trans found'), drop_found ((find (Ne.symm same)).trans found), drop_found found,
          drop_found found']
        simp only [remove, List.filter_filter, Bool.and_comm, barrier, Meter.add_assoc, meter]

private theorem drops_perm (r : Run Name) {names names' : List Name} (same : names.Perm names') :
    r.drops names = r.drops names' := by
  have : RightCommutative (drop : Run Name → Name → Run Name) := ⟨drop_comm⟩
  exact same.foldl_eq r

private theorem Valid.drops {r : Run Name} (valid : r.Valid) (names : List Name) : (r.drops names).Valid := by
  induction names generalizing r with
  | nil => exact valid
  | cons name names ih => exact ih (valid.perform (.drop name))

/-- What this barrier tells a wait, if the generation of the wait has an outcome. -/
def told? (b : Barrier) (w : Wait) : Option Result :=
  w.arrival.bind fun a => (b.outcome? a.generation).map (·.result a)

/-- What this barrier tells these waits. -/
def returns (b : Barrier) (waits : List (Name × Wait)) : List (Name × Result) :=
  waits.filterMap fun e => (told? b e.2).map (e.1, ·)

/-- Somebody is due while its generation is open. -/
def due (r : Run Name) : Bool :=
  r.waits.any fun e => e.2.arrival.any fun a => (r.barrier.outcome? a.generation).isNone && a.deadline.any (· ≤ r.now)

/-- What becomes of the barrier when everybody is polled. -/
def verdict (r : Run Name) : Barrier × Meter :=
  if r.due then r.barrier.abort else (r.barrier, {})

/-- What becomes of the run when everybody is polled, until nobody finishes any more. -/
def concluded (r : Run Name) : Run Name :=
  { r with
    barrier := r.verdict.1
    waits := r.waits.filter fun e => (told? r.verdict.1 e.2).isNone
    results := r.results ++ returns r.verdict.1 r.waits
    meter := r.meter + r.verdict.2 + { waiting := -(returns r.verdict.1 r.waits).length } }

variable {r : Run Name} {name : Name} {w : Wait} {a : Arrival}

omit [DecidableEq Name] in
private theorem outcome?_verdict {g : Nat} {outcome : Outcome} (known : r.barrier.outcome? g = some outcome) :
    r.verdict.1.outcome? g = some outcome := by
  unfold verdict
  split
  · exact (abort_moves r.barrier (fun _ : Nat => none)).outcome? known
  · exact known

/-- If a wait finishes with what it comes to, the others still come to the same. -/
private theorem Distinct.concluded_finish (distinct : r.Distinct) (found : r.find? name = some w) {result : Result}
    {b : Barrier} {m : Meter} (told : told? r.verdict.1 w = some result)
    (barrier : (r.finish name result b m).verdict.1 = r.verdict.1)
    (meter : m + (r.finish name result b m).verdict.2 = r.verdict.2) :
    (r.finish name result b m).concluded.SameButOrder r.concluded := by
  have returns : (returns r.verdict.1 r.waits).Perm
      ((name, result) :: Run.returns r.verdict.1 (r.remove name).waits) := by
    have split := (distinct.perm_cons found).filterMap fun e => (told? r.verdict.1 e.2).map (e.1, ·)
    rwa [List.filterMap_cons_some (b := (name, result)) (by simp [told])] at split
  refine ⟨barrier, rfl, ?_, ?_, ?_⟩
  · simp only [concluded, barrier]
    rw [show (r.finish name result b m).waits = r.waits.filter (·.1 ≠ name) from rfl, List.filter_filter]
    refine List.filter_congr fun e member => ?_
    by_cases here : e.1 = name
    · rw [distinct.entry found member here]
      simp [told]
    · simp [here]
  · simp only [concluded, barrier]
    refine List.Perm.trans ?_ (returns.symm.append_left r.results)
    rw [show (r.finish name result b m).results = r.results ++ [(name, result)] from rfl, List.append_assoc]
    exact .refl _
  · simp only [concluded, barrier, returns.length_eq]
    have number : ({ waiting := -1 } : Meter) + { waiting := -(Run.returns r.verdict.1 (r.remove name).waits).length } =
        { waiting := -(((name, result) :: Run.returns r.verdict.1 (r.remove name).waits).length : Nat) } := by
      rw [Meter.waiting_add, List.length_cons]
      congr 1
      omega
    rw [← number, ← meter, ← Meter.add_assoc, ← Meter.add_assoc]
    congr 1
    change r.meter + (m + { waiting := -1 }) + _ = _
    rw [← Meter.add_assoc, Meter.add_right_comm _ _ rfl]

private theorem Distinct.due_iff (distinct : r.Distinct) :
    r.due = true ↔ ∃ name a, r.blocked name = some a ∧ r.barrier.outcome? a.generation = none ∧
      a.deadline.any (· ≤ r.now) = true := by
  simp only [due, List.any_eq_true, Option.any_eq_true, Bool.and_eq_true, Option.isNone_iff_eq_none]
  constructor
  · rintro ⟨⟨name, w⟩, member, a, arrived, unknown, overdue⟩
    exact ⟨name, a, by simpa [blocked, distinct.find?_of_mem member] using arrived, unknown, overdue⟩
  · rintro ⟨name, a, blocked, unknown, overdue⟩
    obtain ⟨w, found, arrived⟩ := Option.bind_eq_some_iff.mp blocked
    exact ⟨(name, w), mem_of_find? found, a, arrived, unknown, overdue⟩

/-- A poll changes nothing about what the blocked waits come to in the end. -/
private theorem Valid.concluded_poll (valid : r.Valid) (started : r.Started name) :
    (r.poll name).concluded.SameButOrder r.concluded := by
  have valid' := valid.poll name
  have polled := valid.distinct.polled started
  generalize r.poll name = r' at polled valid'
  cases polled with
  | still _ => exact .refl _
  | @told a outcome blocked known =>
    obtain ⟨w, found, arrived⟩ := Option.bind_eq_some_iff.mp blocked
    have due : (r.finish name (outcome.result a) r.barrier {}).due = r.due := by
      refine Bool.eq_iff_iff.mpr (valid'.distinct.due_iff.trans (Iff.trans ?_ valid.distinct.due_iff.symm))
      refine exists_congr fun other => exists_congr fun a' => and_congr_left fun ⟨unknown, _⟩ => ?_
      rw [blocked_finish]
      split
      · rename_i same
        rw [same, blocked]
        refine ⟨fun nobody => (by cases nobody), fun this => ?_⟩
        cases this
        exact absurd known (by simp [show r.barrier.outcome? a.generation = none from unknown])
      · rfl
    have verdict : (r.finish name (outcome.result a) r.barrier {}).verdict = r.verdict := by
      rw [Run.verdict, due]
      rfl
    refine valid.distinct.concluded_finish found ?_ (by rw [verdict]) (by rw [verdict, Meter.empty_add])
    simp [told?, arrived, outcome?_verdict known]
  | @late a blocked unknown overdue =>
    obtain ⟨w, found, arrived⟩ := Option.bind_eq_some_iff.mp blocked
    obtain ⟨current, unbroken⟩ := valid.sound.current_of_unknown blocked unknown
    have verdict : r.verdict = r.barrier.abort :=
      if_pos (valid.distinct.due_iff.mpr ⟨name, a, blocked, unknown, overdue⟩)
    -- The generation is broken now, so nobody is due in an open one.
    have verdict' : (r.finish name (.failed (.brokenDuring a.generation)) r.barrier.abort.1 r.barrier.abort.2).verdict =
        (r.barrier.abort.1, {}) := by
      refine if_neg fun due => ?_
      obtain ⟨_, _, blocked', unknown', _⟩ := valid'.distinct.due_iff.mp due
      have unbroken' := (valid'.sound.current_of_unknown blocked' unknown').2
      simp [finish] at unbroken'
    refine valid.distinct.concluded_finish found ?_ (by rw [verdict, verdict'])
      (by rw [verdict, verdict', Meter.add_empty])
    rw [verdict, told?, arrived, Option.bind_some, ← current, outcome?_abort valid.sound unbroken]
    simp [Outcome.result, current]

private theorem Valid.concluded_polls (valid : r.Valid) {names : List Name} (started : ∀ n ∈ names, r.Started n) :
    (r.polls names).concluded.SameButOrder r.concluded := by
  induction names generalizing r with
  | nil => exact .refl _
  | cons name names ih =>
    obtain ⟨first, later⟩ := valid.distinct.started_cons started
    exact (ih (valid.poll name) later).trans (valid.concluded_poll first)

/-- At rest nobody comes to anything else. -/
private theorem Valid.concluded_of_atRest (valid : r.Valid) (rest : r.AtRest) : r.concluded = r := by
  have early := valid.distinct.atRest_iff.mp rest
  have verdict : r.verdict = (r.barrier, {}) := by
    refine if_neg fun due => ?_
    obtain ⟨name, a, blocked, _, overdue⟩ := valid.distinct.due_iff.mp due
    rw [(early name a blocked).2] at overdue
    cases overdue
  have untold : ∀ e ∈ r.waits, told? r.verdict.1 e.2 = none := by
    rintro ⟨name, w⟩ member
    refine Option.bind_eq_none_iff.mpr fun a arrived => ?_
    have blocked : r.blocked name = some a := by simpa [blocked, valid.distinct.find?_of_mem member] using arrived
    rw [verdict, (early name a blocked).1]
    rfl
  have waits : r.waits.filter (fun e => (told? r.verdict.1 e.2).isNone) = r.waits :=
    List.filter_eq_self.mpr fun e member => by rw [untold e member]; rfl
  have nothing : returns r.verdict.1 r.waits = [] :=
    List.filterMap_eq_nil_iff.mpr fun e member => by rw [untold e member]; rfl
  rw [concluded, waits, nothing, verdict, List.append_nil, Meter.add_empty]
  exact congrArg (fun meter => { r with meter }) r.meter.add_empty

private theorem Valid.sameButOrder_concluded (valid : r.Valid) {names : List Name} (started : ∀ n ∈ names, r.Started n)
    (rest : (r.polls names).AtRest) : (r.polls names).SameButOrder r.concluded := by
  have same := valid.concluded_polls started
  rwa [(valid.polls names).concluded_of_atRest rest] at same

end Run

/-- Whatever the clock says: if some waits are dropped and then the blocked ones polled until the run is at rest, the
    order of the drops and of the polls leaves no trace but the order of the results. Two rounds of polls bring it to
    rest. -/
theorem settled_in_any_order {o : Options} {b : Barrier} (made : new? o = some b) (ops : List (Operation Name))
    (now : Nat) {gone gone' : List Name} (same : gone.Perm gone') :
    let r := { ({ barrier := b } : Run Name).run ops with now }
    let left := r.drops gone
    let left' := r.drops gone'
    (∀ polls polls', (∀ name ∈ polls, (left.blocked name).isSome) → (∀ name ∈ polls', (left'.blocked name).isSome) →
      (left.polls polls).AtRest → (left'.polls polls').AtRest →
      (left.polls polls).SameButOrder (left'.polls polls')) ∧
    ∀ first second, left.Round first → (left.polls first).Round second → ((left.polls first).polls second).AtRest := by
  intro r left left'
  have reached : (({ barrier := b } : Run Name).run ops).Valid := (Run.Valid.new made).run ops
  have valid : r.Valid := ⟨reached.sound, reached.distinct⟩
  have equal : left' = left := (r.drops_perm same).symm
  have valid' : left.Valid := valid.drops gone
  refine ⟨fun polls polls' blocked blocked' rest rest' => ?_, fun _ _ => valid'.atRest_of_rounds⟩
  rw [equal] at rest' blocked' ⊢
  have one := valid'.sameButOrder_concluded (fun n member => Run.started_of_blocked (blocked n member)) rest
  have other := valid'.sameButOrder_concluded (fun n member => Run.started_of_blocked (blocked' n member)) rest'
  exact one.trans other.symm

/-- Five parties are needed; two of four that came will be late at 7, and the other two withdraw. -/
def lateAndWithdrawn : List (Operation (Fin 4)) :=
  [.create 0 (some 7), .create 1 (some 2), .create 2 none, .create 3 none, .poll 0, .poll 1, .poll 2, .poll 3]

theorem settled_in_any_order_late :
    let r : Run (Fin 4) := { (Run.run { barrier := { options := ⟨5, .withdraw⟩ } } lateAndWithdrawn) with now := 7 }
    [2, 3].Perm ([3, 2] : List (Fin 4)) ∧ ((r.drops [2, 3]).polls [0, 1, 0]).SameButOrder ((r.drops [3, 2]).polls [1, 0]) := by
  have swapped : [2, 3].Perm ([3, 2] : List (Fin 4)) := .swap 3 2 []
  refine ⟨swapped, (settled_in_any_order (o := ⟨5, .withdraw⟩) rfl lateAndWithdrawn 7 swapped).1 [0, 1, 0] [1, 0]
    (by decide) (by decide) ?_ ?_⟩
  · unfold Run.AtRest
    decide
  · unfold Run.AtRest
    decide

end Lockstep.Barrier
