import Lockstep.Proofs.Barrier.AnyOrder
import Lockstep.Proofs.Barrier.Renaming

/-!
# Withdrawing is as never having arrived

Where the policy is to withdraw, a wait that is dropped while its generation is
open leaves a gap in the tickets and nothing else. As long as the generation is
open the drop commutes with whatever is done to the others (`drop_perform`), so
it may as well have come right after the arrival; and a barrier that has left out
a ticket goes on as one that has not (`skipped_eq_renamed`).
-/
namespace Lockstep.Barrier

section
variable {Name : Type} {b : Barrier} {blocked : Blocked Name}

private theorem pollBlocked_withdrawn (size : b.outcomes.size = b.generation) (unbroken : b.broken = false) (t : Ticket)
    {now : Nat} {w : Wait} {a : Arrival} (unsettled : (b.pollBlocked now w a).1.outcome? b.generation = none) :
    (b.withdrawn t).pollBlocked now w a =
      ((b.pollBlocked now w a).1.withdrawn t, (b.pollBlocked now w a).2.1, (b.pollBlocked now w a).2.2) := by
  have outcome : (b.withdrawn t).outcome? a.generation = b.outcome? a.generation := rfl
  rcases pollBlocked_cases b now w a with ⟨o, known, eq⟩ | ⟨_, _, eq⟩ | ⟨unknown, early, eq⟩
  · rw [eq, pollBlocked, outcome, known]
  · rw [eq, outcome?_abort_of_size size unbroken] at unsettled
    cases unsettled
  · rw [eq, pollBlocked, outcome, unknown]
    simp [early]

private theorem arrive_withdrawn (sound : Sound b blocked) (unbroken : b.broken = false) {t : Ticket}
    (counted : t ∈ b.waiting) {now : Nat} {w : Wait} (unsettled : (b.arrive now w).1.outcome? b.generation = none) :
    (b.withdrawn t).arrive now w = ((b.arrive now w).1.withdrawn t, (b.arrive now w).2.1, (b.arrive now w).2.2) := by
  have size : b.outcomes.size = b.generation := by simpa [unbroken] using sound.settled
  have fewer : (b.withdrawn t).waiting.length < b.waiting.length :=
    List.length_filter_lt_length_iff_exists.mpr ⟨t, counted, by simp⟩
  rcases arrive_cases b now w with ⟨broken, _⟩ | ⟨_, _, eq⟩ | ⟨_, room, a, rfl, eq⟩
  · rw [unbroken] at broken
    cases broken
  · rw [eq, outcome?_released size] at unsettled
    cases unsettled
  · rw [eq] at unsettled
    rcases arrive_cases (b.withdrawn t) now w with ⟨broken, _⟩ | ⟨_, last, _⟩ | ⟨_, _, a', rfl, eq'⟩
    · exact absurd (unbroken.symm.trans broken) (by simp)
    · -- One party fewer does not make the next one the last.
      have below := sound.below_parties
      have last : (b.withdrawn t).waiting.length + 1 = b.options.parties := last
      omega
    · have joined : (b.withdrawn t).joined = b.joined.withdrawn t := by
        have new : b.nextTicket ≠ t := fun same => sound.next_not_mem (same ▸ counted)
        simp [Barrier.joined, withdrawn, List.filter_append, new]
      rw [eq, eq', joined]
      have looks := pollBlocked_withdrawn (b := b.joined) size unbroken t unsettled
      exact congrArg (fun x : Barrier × Poll × Meter => (x.1, x.2.1, { waiting := 1 } + x.2.2)) looks

private theorem poll_withdrawn (sound : Sound b blocked) (unbroken : b.broken = false) {t : Ticket}
    (counted : t ∈ b.waiting) {now : Nat} {w : Wait} (unsettled : (b.poll now w).1.outcome? b.generation = none) :
    (b.withdrawn t).poll now w = ((b.poll now w).1.withdrawn t, (b.poll now w).2.1, (b.poll now w).2.2) := by
  unfold poll at unsettled ⊢
  cases arrival : w.arrival with
  | none =>
    rw [arrival] at unsettled
    exact arrive_withdrawn sound unbroken counted unsettled
  | some a =>
    rw [arrival] at unsettled
    exact pollBlocked_withdrawn (by simpa [unbroken] using sound.settled) unbroken t unsettled

/-- A ticket is left out. -/
def skipped (b : Barrier) : Barrier :=
  { b with nextTicket := b.nextTicket + 1 }

private theorem withdrawn_joined (fresh : b.nextTicket ∉ b.waiting) :
    b.joined.withdrawn b.nextTicket = b.skipped := by
  have kept : b.waiting.filter (· ≠ b.nextTicket) = b.waiting :=
    List.filter_eq_self.mpr fun t member => by simpa using ne_of_mem_of_not_mem member fresh
  simp only [withdrawn, joined, List.filter_append, kept, skipped]
  simp

/-- A party that arrives and leaves the generation open is blocked. -/
private theorem arrive_unsettled (sound : Sound b blocked) {now : Nat} {w : Wait}
    (unsettled : (b.arrive now w).1.outcome? b.generation = none) :
    b.broken = false ∧ ∃ a : Arrival, a.generation = b.generation ∧ a.ticket = b.nextTicket ∧
      b.arrive now w = (b.joined, .pending { w with arrival := some a }, { waiting := 1 }) := by
  rcases arrive_cases b now w with ⟨broken, eq⟩ | ⟨unbroken, _, eq⟩ | ⟨unbroken, _, a, rfl, eq⟩
  · rw [eq, sound.kept broken] at unsettled
    cases unsettled
  · rw [eq, outcome?_released (by simpa [unbroken] using sound.settled)] at unsettled
    cases unsettled
  · refine ⟨unbroken, ⟨b.generation, b.nextTicket, w.timeout.map (now + ·)⟩, rfl, rfl, ?_⟩
    rw [eq] at unsettled ⊢
    rcases pollBlocked_cases b.joined now w ⟨b.generation, b.nextTicket, w.timeout.map (now + ·)⟩
      with ⟨outcome, known, eq'⟩ | ⟨_, _, eq'⟩ | ⟨_, _, eq'⟩
    · rw [eq'] at unsettled
      exact absurd (known.symm.trans unsettled) (by simp)
    · rw [eq'] at unsettled
      have size : b.outcomes.size = b.generation := by simpa [unbroken] using sound.settled
      exact absurd ((outcome?_abort_of_size (b := b.joined) size unbroken).symm.trans unsettled) (by simp)
    · rw [eq', Meter.add_empty]

end

variable {Name : Type} [DecidableEq Name]

namespace Run

variable {r : Run Name} {name : Name} {a : Arrival}

/-- Without this wait, whose arrival is taken back. -/
def retracted (r : Run Name) (name : Name) (t : Ticket) : Run Name :=
  { r.remove name with barrier := r.barrier.withdrawn t, meter := r.meter + { waiting := -1 } }

private theorem find?_retracted (t : Ticket) {other : Name} (different : other ≠ name) :
    (r.retracted name t).find? other = r.find? other :=
  (r.find?_remove name other).trans (if_neg different)

private theorem drop_counted (policy : r.barrier.options.policy = .withdraw) (blocked : r.blocked name = some a)
    (current : r.barrier.generation = a.generation) (unbroken : r.barrier.broken = false) :
    r.drop name = r.retracted name a.ticket := by
  obtain ⟨w, found, arrived⟩ := Option.bind_eq_some_iff.mp blocked
  have here : ¬(r.barrier.generation ≠ a.generation ∨ r.barrier.broken = true) := by simp [current, unbroken]
  rw [drop_found found, Barrier.drop, arrived]
  simp only [leave_withdraw here policy, Meter.empty_add, retracted]

private theorem Valid.retracted_poll (valid : r.Valid) (unbroken : r.barrier.broken = false) {t : Ticket}
    (counted : t ∈ r.barrier.waiting) {other : Name} (different : other ≠ name)
    (unsettled : (r.poll other).barrier.outcome? r.barrier.generation = none) :
    (r.poll other).retracted name t = (r.retracted name t).poll other := by
  have find := find?_retracted (r := r) t different
  cases found : r.find? other with
  | none => rw [poll_absent found, poll_absent (find.trans found)]
  | some w =>
    rw [(r.poll_eq found).1] at unsettled
    have polled' : (r.retracted name t).barrier.poll (r.retracted name t).now w =
        ((r.barrier.poll r.now w).1.withdrawn t, (r.barrier.poll r.now w).2.1, (r.barrier.poll r.now w).2.2) :=
      poll_withdrawn valid.sound unbroken counted unsettled
    have meter (m : Meter) : r.meter + m + { waiting := -1 } = r.meter + { waiting := -1 } + m :=
      (Meter.add_right_comm _ _ rfl).symm
    cases polled : (r.barrier.poll r.now w).2.1 with
    | pending w' =>
      have waits := congrArg Run.waits (r.remove_put name other w')
      rw [poll_pending found polled, poll_pending (find.trans found) (by rw [polled', polled]), polled', retracted, meter]
      exact congrArg (Run.mk _ _ · _ _) waits
    | done result =>
      rw [poll_done found polled, poll_done (find.trans found) (by rw [polled', polled]), polled', retracted, meter]
      have waits := congrArg Run.waits (r.remove_remove name other)
      exact congrArg (Run.mk _ _ · _ _) waits

/-- While the generation of a wait is open, its drop may as well come before what is done to the others. -/
private theorem Valid.drop_perform (valid : r.Valid) (policy : r.barrier.options.policy = .withdraw)
    (blocked : r.blocked name = some a) {op : Operation Name} (other : op.name? ≠ some name)
    (unsettled : (r.perform op).barrier.outcome? a.generation = none) :
    (r.perform op).drop name = (r.drop name).perform op := by
  have moves := r.perform_moves valid.sound op
  have blocked' : (r.perform op).blocked name = some a := by
    rw [Run.blocked, find?_perform other]
    exact blocked
  obtain ⟨current, unbroken⟩ := valid.sound.current_of_unknown blocked (moves.unsettled unsettled)
  obtain ⟨current', unbroken'⟩ := (valid.perform op).sound.current_of_unknown blocked' unsettled
  have policy' : (r.perform op).barrier.options.policy = .withdraw := by rw [moves.options, policy]
  rw [drop_counted policy' blocked' current' unbroken', drop_counted policy blocked current unbroken]
  cases op with
  | create n timeout =>
    have different : n ≠ name := fun same => other (congrArg some same)
    simp only [Run.perform, Run.create, find?_retracted a.ticket different]
    cases r.find? n with
    | some w => rfl
    | none => simp [retracted, Run.remove, List.filter_append, different]
  | poll n =>
    have different : n ≠ name := fun same => other (congrArg some same)
    exact valid.retracted_poll unbroken (valid.sound.counted unbroken blocked current.symm) different
      (current ▸ unsettled)
  | drop n =>
    rw [← drop_counted policy blocked current unbroken, ← drop_counted policy' blocked' current' unbroken']
    exact r.drop_comm n name
  | advance ms => rfl
  -- The other two settle the generation.
  | abort =>
    have broken : r.barrier.abort.1.broken = false := unbroken'
    simp at broken
  | reset =>
    have later : r.barrier.reset.1.generation = a.generation := current'
    simp [reset_eq, Barrier.advance, current] at later

/-- What is not done to this wait. -/
def others (name : Name) (ops : List (Operation Name)) : List (Operation Name) :=
  ops.filter fun op => op.name? ≠ some name

/-- A wait that has not arrived is as none. -/
theorem remove_run {w : Wait} (found : r.find? name = some w) {ops : List (Operation Name)}
    (idle : ∀ op ∈ ops, op ≠ .poll name ∧ op ≠ .drop name) :
    (r.run ops).find? name = some w ∧ (r.run ops).remove name = (r.remove name).run (others name ops) := by
  induction ops generalizing r with
  | nil => exact ⟨found, rfl⟩
  | cons op ops ih =>
    obtain ⟨⟨unpolled, undropped⟩, idle⟩ := List.forall_mem_cons.mp idle
    by_cases other : op.name? = some name
    · have same : r.perform op = r := by
        rcases op.name?_eq_some other with ⟨timeout, rfl⟩ | rfl | rfl
        · exact create_found found timeout
        · exact absurd rfl unpolled
        · exact absurd rfl undropped
      simpa [others, other, same] using ih found idle
    · have step := remove_perform (r := r) other
      obtain ⟨found', rest⟩ := ih ((find?_perform other).trans found) idle
      refine ⟨found', rest.trans ?_⟩
      simp [others, other, step]

/-- A blocked wait whose generation is open after a poll was not told anything. -/
private theorem Valid.poll_unsettled (valid : r.Valid) (blocked : r.blocked name = some a)
    (unsettled : (r.poll name).barrier.outcome? a.generation = none) : r.poll name = r := by
  have polled := valid.distinct.polled (started_of_blocked (by simp [blocked] : (r.blocked name).isSome))
  generalize r.poll name = r' at polled unsettled
  cases polled with
  | still _ => rfl
  | told blocked' known =>
    rw [blocked, Option.some.injEq] at blocked'
    subst blocked'
    exact absurd known (by simp [show r.barrier.outcome? a.generation = none from unsettled])
  | late blocked' unknown _ =>
    rw [blocked, Option.some.injEq] at blocked'
    subst blocked'
    obtain ⟨current, unbroken⟩ := valid.sound.current_of_unknown blocked unknown
    have broken := current ▸ outcome?_abort valid.sound unbroken
    exact absurd broken (by simp [show r.barrier.abort.1.outcome? a.generation = none from unsettled])

theorem Valid.drop_run (valid : r.Valid) (policy : r.barrier.options.policy = .withdraw)
    (blocked : r.blocked name = some a) {ops : List (Operation Name)} (kept : .drop name ∉ ops)
    (unsettled : (r.run ops).barrier.outcome? a.generation = none) :
    (r.run ops).blocked name = some a ∧ (r.run ops).drop name = (r.drop name).run (others name ops) := by
  induction ops generalizing r with
  | nil => exact ⟨blocked, rfl⟩
  | cons op ops ih =>
    obtain ⟨kept', kept⟩ := List.ne_and_not_mem_of_not_mem_cons kept
    have moves := r.perform_moves valid.sound op
    -- An outcome stays, so what has none in the end had none at any step.
    have unsettled' : (r.perform op).barrier.outcome? a.generation = none :=
      ((r.perform op).run_moves (valid.perform op).sound ops).unsettled unsettled
    by_cases other : op.name? = some name
    · have same : r.perform op = r := by
        rcases op.name?_eq_some other with ⟨timeout, rfl⟩ | rfl | rfl
        · obtain ⟨w, found, _⟩ := Option.bind_eq_some_iff.mp blocked
          exact create_found found timeout
        · exact valid.poll_unsettled blocked unsettled'
        · exact absurd rfl kept'
      rw [run_cons, same] at unsettled ⊢
      simpa [others, other] using ih valid policy blocked kept unsettled
    · have step := valid.drop_perform policy blocked other unsettled'
      have blocked' : (r.perform op).blocked name = some a := by
        rw [Run.blocked, find?_perform other]
        exact blocked
      obtain ⟨stays, rest⟩ := ih (valid.perform op) (by rw [moves.options, policy]) blocked' kept unsettled
      refine ⟨stays, rest.trans ?_⟩
      simp [others, other, step]

/-- Where the generation is open after the first poll of a wait, the wait is blocked, and giving it up at once leaves
    nothing but a ticket that was given out. -/
private theorem Valid.drop_arrived (valid : r.Valid) (policy : r.barrier.options.policy = .withdraw) {w : Wait}
    (found : r.find? name = some w) (first : w.arrival = none)
    (unsettled : (r.poll name).barrier.outcome? r.barrier.generation = none) :
    ∃ a, (r.poll name).blocked name = some a ∧ a.generation = r.barrier.generation ∧
      (r.poll name).drop name = { r.remove name with barrier := r.barrier.skipped } := by
  have polled : r.barrier.poll r.now w = r.barrier.arrive r.now w := by simp [Barrier.poll, first]
  obtain ⟨barrier, blocked⟩ := r.poll_eq found
  rw [barrier, polled] at unsettled
  obtain ⟨unbroken, a, here, ticket, eq⟩ := arrive_unsettled valid.sound unsettled
  rw [← polled] at eq
  have arrived : (r.poll name).blocked name = some a := by
    rw [blocked, eq]
    exact Function.update_self ..
  refine ⟨a, arrived, here, ?_⟩
  have run := poll_pending found (by rw [eq])
  rw [eq] at run
  have dropped : (r.poll name).drop name = (r.poll name).retracted name a.ticket := by
    rw [run] at arrived ⊢
    exact drop_counted policy arrived here.symm unbroken
  rw [dropped, run, retracted, ticket, withdrawn_joined valid.sound.next_not_mem]
  have waits := congrArg Run.waits (r.remove_put_self name { w with arrival := some a })
  have meter : r.meter + { waiting := 1 } + { waiting := -1 } = r.meter := by
    rw [Meter.add_assoc]
    exact r.meter.add_empty
  exact (congrArg (Run.mk _ _ · _ _) waits).trans (congrArg (Run.mk _ _ _ _) meter)

end Run

/-- In the current generation the tickets not given out yet are one more. -/
def Renaming.skipping (b : Barrier) : Renaming where
  past := #[]
  ticket := fun g t => if g = b.generation ∧ b.nextTicket ≤ t then t + 1 else t

private theorem skip_injective (n : Nat) : Function.Injective fun t => if n ≤ t then t + 1 else t := by
  intro t t' same
  simp only at same
  split at same <;> split at same <;> omega

private theorem Renaming.skipping_fits (b : Barrier) : (skipping b).Fits b where
  injective := fun g => by
    by_cases here : g = b.generation
    · simpa only [skipping, here, true_and] using skip_injective b.nextTicket
    · exact fun t t' same => by simpa [skipping, here] using same
  counts := fun t le => by
    have le' : b.nextTicket ≤ t + 1 := Nat.le_succ_of_le le
    simp [skipping, le, le']
  later := fun g lt t => by
    have other : g ≠ b.generation := Nat.ne_of_gt lt
    simp [skipping, other]

private theorem Renaming.skipping_before {b : Barrier} {g : Nat} {t : Ticket}
    (before : g = b.generation → t < b.nextTicket) : (skipping b).ticket g t = t :=
  if_neg fun ⟨here, le⟩ => absurd (before here) (Nat.not_lt_of_le le)

private theorem skipped_eq_renamed {Name : Type} {b : Barrier} {blocked : Blocked Name} (sound : Sound b blocked)
    (unbroken : b.broken = false) : b.skipped = b.renamed (.skipping b) := by
  have size : b.outcomes.size = b.generation := by simpa [unbroken] using sound.settled
  have waiting : b.waiting.map ((Renaming.skipping b).ticket b.generation) = b.waiting :=
    (List.map_congr_left fun t member => Renaming.skipping_before fun _ => sound.below_next t member).trans
      (List.map_id _)
  have next : (Renaming.skipping b).ticket b.generation b.nextTicket = b.nextTicket + 1 :=
    if_pos ⟨rfl, Nat.le_refl _⟩
  have outcomes :
      (b.outcomes.mapIdx fun g outcome => outcome.renamed ((Renaming.skipping b).ticket g)) = b.outcomes := by
    refine Array.ext (by simp) fun g _ before => ?_
    have past : (Renaming.skipping b).ticket g = id := by
      funext t
      exact Renaming.skipping_before fun here => by omega
    rw [Array.getElem_mapIdx, past]
    cases b.outcomes[g] with
    | broken => rfl
    | released tickets => exact congrArg Outcome.released tickets.map_id
  rw [renamed, waiting, next, outcomes]
  simp [skipped, Renaming.skipping]

private theorem status_skipping (b b' : Barrier) : (b'.renamed (.skipping b)).status = b'.status :=
  status_renamed _ _

namespace Run

variable {r : Run Name} {name : Name} {a : Arrival}

/-- No result of a run tells a ticket. -/
theorem plain_of_run {o : Options} {b : Barrier} (made : new? o = some b) (ops : List (Operation Name)) :
    ∀ e ∈ (Run.run { barrier := b } ops).results, e.2.Plain := by
  obtain ⟨positive, rfl⟩ := new?_eq_some made
  rintro ⟨name, result⟩ member
  rw [results_run, List.nil_append] at member
  obtain ⟨event, shown, eq⟩ := List.mem_filterMap.mp member
  cases event with
  | returned name' g result' =>
    cases eq
    have story := (story_of_run positive ops).2.2 g
    cases known : (Run.run { barrier := { options := o } } ops).barrier.outcome? g with
    | none => exact absurd shown ((story.unsettled known).silent name result)
    | some outcome =>
      cases outcome with
      | broken =>
        rcases story.failed known name result shown with rfl | rfl
        · trivial
        · trivial
      | released tickets =>
        obtain ⟨parties, freed⟩ := story.freed known
        obtain ⟨i, _, rfl⟩ := freed.told name result shown
        trivial
  | _ => cases eq

/-- No ticket given out so far gets a new number. -/
private theorem Valid.wait_skipping (valid : r.Valid) (unbroken : r.barrier.broken = false) {e : Name × Wait}
    (member : e ∈ r.waits) : e.2.renamed (.skipping r.barrier) = e.2 := by
  cases arrival : e.2.arrival with
  | none => rw [Wait.renamed, arrival, Option.map_none, ← arrival]
  | some a =>
    have blocked : r.blocked e.1 = some a := by
      simpa [blocked, valid.distinct.find?_of_mem (show (e.1, e.2) ∈ r.waits from member)] using arrival
    have ticket : (Renaming.skipping r.barrier).ticket a.generation a.ticket = a.ticket :=
      Renaming.skipping_before fun here => valid.sound.below_next _ (valid.sound.counted unbroken blocked here)
    have same : a.renamed (.skipping r.barrier) = a := congrArg (Arrival.mk a.generation · a.deadline) ticket
    rw [Wait.renamed, arrival, Option.map_some, same, ← arrival]

private theorem Valid.skipped_eq_renamed (valid : r.Valid) (unbroken : r.barrier.broken = false)
    (plain : ∀ e ∈ r.results, e.2.Plain) :
    ({ r with barrier := r.barrier.skipped } : Run Name) = r.renamed (.skipping r.barrier) := by
  have barrier := Barrier.skipped_eq_renamed valid.sound unbroken
  have waits : r.waits.map (fun e => (e.1, e.2.renamed (.skipping r.barrier))) = r.waits := by
    refine (List.map_congr_left fun e member => ?_).trans (List.map_id _)
    rw [valid.wait_skipping unbroken member, id]
  have results : r.results.map (fun e => (e.1, e.2.renamed (.skipping r.barrier))) = r.results :=
    results_renamed rfl plain
  rw [Run.renamed, ← barrier, waits, results]

private theorem drop_idle {w : Wait} (found : r.find? name = some w) (first : w.arrival = none) :
    r.drop name = r.remove name := by
  rw [drop_found found, Barrier.drop, first, Meter.add_empty]
  rfl

/-- A blocked wait counts for one. -/
private theorem Valid.status_drop (valid : r.Valid) (policy : r.barrier.options.policy = .withdraw)
    (blocked : r.blocked name = some a) (unsettled : r.barrier.outcome? a.generation = none) :
    r.barrier.status = { (r.drop name).barrier.status with waiting := (r.drop name).barrier.status.waiting + 1 } := by
  obtain ⟨current, unbroken⟩ := valid.sound.current_of_unknown blocked unsettled
  have counted := valid.sound.counted unbroken blocked current.symm
  have fewer : (r.barrier.waiting.filter (· ≠ a.ticket)).length + 1 = r.barrier.waiting.length := by
    have erased := List.length_erase_add_one counted
    rw [valid.sound.nodup.erase_eq_filter] at erased
    simp only [ne_eq, decide_not]
    exact erased
  rw [drop_counted policy blocked current unbroken]
  simp only [retracted, Barrier.status, withdrawn, fewer]

/-- As long as the generation of a wait is open, the wait counts for one, and giving it up leaves what would have been
    without it, but for a ticket left out. -/
private theorem Valid.drop_blocked (valid : r.Valid) (policy : r.barrier.options.policy = .withdraw)
    (plain : ∀ e ∈ r.results, e.2.Plain) {w : Wait} (found : r.find? name = some w) (first : w.arrival = none)
    {ops part : List (Operation Name)} (kept : .drop name ∉ ops) (inside : part <+: ops)
    (unsettled : ((r.poll name).run ops).barrier.outcome? r.barrier.generation = none) :
    let q := (r.poll name).run part
    q.barrier.status = { (q.drop name).barrier.status with waiting := (q.drop name).barrier.status.waiting + 1 } ∧
      ∀ after, (q.drop name).run after =
        ((r.remove name).run (others name part ++ after)).renamed (.skipping r.barrier) := by
  intro q
  have valid' : (r.remove name).Valid := drop_idle found first ▸ valid.perform (.drop name)
  have moves : Moves r.barrier r.blocked _ (r.poll name).barrier (r.poll name).blocked :=
    r.perform_moves valid.sound (.poll name)
  have moves' := (r.poll name).run_moves (valid.poll name).sound part
  have unsettled : q.barrier.outcome? r.barrier.generation = none := by
    obtain ⟨rest, rfl⟩ := inside
    rw [run_append] at unsettled
    exact (q.run_moves ((valid.poll name).run part).sound rest).unsettled unsettled
  have unbroken : r.barrier.broken = false := by
    simpa [valid.sound.outcome?_eq_none_iff] using moves.unsettled (moves'.unsettled unsettled)
  have policy' : (r.poll name).barrier.options.policy = .withdraw := by rw [moves.options, policy]
  have kept : .drop name ∉ part := fun member => kept (inside.subset member)
  obtain ⟨a, blocked, here, dropped⟩ := valid.drop_arrived policy found first (moves'.unsettled unsettled)
  rw [← here] at unsettled
  obtain ⟨blocked', rest⟩ := (valid.poll name).drop_run policy' blocked kept unsettled
  have policy'' : q.barrier.options.policy = .withdraw := by rw [moves'.options, policy']
  refine ⟨((valid.poll name).run part).status_drop policy'' blocked' unsettled, fun after => ?_⟩
  rw [rest, dropped, ← run_append]
  exact (congrArg (fun q : Run Name => q.run _) (valid'.skipped_eq_renamed unbroken plain)).trans
    (run_renamed valid'.sound (Renaming.skipping_fits r.barrier) _)

end Run

/-- Where the policy is to withdraw, a wait that arrives and is given up while its generation is open is as one that
    was never made: all that is done to others comes to the same, and only while the wait is blocked one more is
    counted. -/
theorem withdrawn_as_never_arrived {o : Options} {b : Barrier} (made : new? o = some b) (policy : o.policy = .withdraw)
    (name : Name) (timeout : Option Nat) (first before middle : List (Operation Name)) :
    let run := ({ barrier := b } : Run Name).run
    let idle := first ++ .create name timeout :: before
    let without := first ++ Run.others name before
    (run first).find? name = none → (∀ op ∈ before, op ≠ .poll name ∧ op ≠ .drop name) → .drop name ∉ middle →
    (run (idle ++ .poll name :: middle)).barrier.outcome? (run idle).barrier.generation = none →
    (∀ part, part <+: before →
      (run (first ++ .create name timeout :: part)).barrier.status =
        (run (first ++ Run.others name part)).barrier.status) ∧
    (∀ part, part <+: middle →
      let status := (run (without ++ Run.others name part)).barrier.status
      (run (idle ++ .poll name :: part)).barrier.status = { status with waiting := status.waiting + 1 }) ∧
    ∀ after,
      let r := run (idle ++ .poll name :: middle ++ .drop name :: after)
      let r' := run (without ++ Run.others name middle ++ after)
      r.barrier.status = r'.barrier.status ∧ r.results = r'.results ∧ r.meter = r'.meter := by
  intro run idle without new unpolled undropped unsettled
  have start : ({ barrier := b } : Run Name).Valid := .new made
  have options (ops : List (Operation Name)) : (run ops).barrier.options.policy = .withdraw := by
    obtain ⟨_, rfl⟩ := new?_eq_some made
    rw [(Run.run_moves _ start.sound ops).options, policy]
  have created : ∀ part, part <+: before →
      (run (first ++ .create name timeout :: part)).find? name = some { timeout } ∧
      (run (first ++ .create name timeout :: part)).remove name = run (first ++ Run.others name part) := by
    intro part inside
    have made : ((run first).create name timeout).find? name = some { timeout } := by
      simp [Run.find?_create, new]
    obtain ⟨found, removed⟩ := Run.remove_run made fun op member => unpolled op (inside.subset member)
    rw [Run.remove_create new] at removed
    simp only [run, Run.run_append, Run.run_cons]
    exact ⟨found, removed⟩
  obtain ⟨found, removed⟩ := created before (List.prefix_refl before)
  have poll (part : List (Operation Name)) : run (idle ++ .poll name :: part) = ((run idle).poll name).run part :=
    Run.run_append ..
  rw [poll middle] at unsettled
  have stay : ∀ part, part <+: middle → _ := fun part inside =>
    (start.run idle).drop_blocked (options idle) (Run.plain_of_run made idle) found rfl undropped inside unsettled
  refine ⟨fun part inside => ?_, fun part inside => ?_, fun after => ?_⟩
  · exact congrArg (·.barrier.status) (created part inside).2
  · obtain ⟨status, dropped⟩ := stay part inside
    have rest := dropped []
    rw [Run.run_nil, List.append_nil, removed, ← Run.run_append] at rest
    rw [rest] at status
    rw [poll part]
    simpa only [Run.renamed, status_skipping] using status
  · obtain ⟨_, dropped⟩ := stay middle (List.prefix_refl middle)
    have drop : run (idle ++ .poll name :: middle ++ .drop name :: after) =
        ((run (idle ++ .poll name :: middle)).drop name).run after := Run.run_append ..
    rw [drop, poll middle, dropped after, removed, ← Run.run_append, ← List.append_assoc]
    exact ⟨status_skipping _ _, Run.results_renamed rfl (Run.plain_of_run made _), rfl⟩

/-- What is done to others while the wait `1` is blocked. -/
def meanwhile : List (Operation Nat) :=
  [.advance 5, .poll 2]

/-- What is done after it went away: two more parties come, the last one under its name. -/
def afterwards : List (Operation Nat) :=
  [.create 3 none, .poll 3, .create 1 none, .poll 1, .poll 2, .poll 0]

theorem withdrawn_as_never_arrived_name_reused :
    let run := Run.run { barrier := { options := ⟨4, .withdraw⟩ } }
    let idle := [.create 0 none, .poll 0, .create 1 (some 2), .create 2 (some 9)]
    let without := run ([.create 0 none, .poll 0, .create 2 (some 9)] ++ meanwhile ++ afterwards)
    let one := run (idle ++ .poll 1 :: meanwhile ++ .drop 1 :: afterwards)
    without.results = [(1, .released 3), (2, .released 1), (0, .released 0)] ∧
      (run (idle ++ .poll 1 :: meanwhile)).barrier.status = ⟨4, 3, false, 0⟩ ∧
      one.barrier.status = without.barrier.status ∧ one.results = without.results ∧ one.meter = without.meter := by
  have same := withdrawn_as_never_arrived (o := ⟨4, .withdraw⟩) rfl rfl 1 (some 2) [.create 0 none, .poll 0]
    [.create 2 (some 9)] meanwhile (by decide) (by decide) (by decide) (by decide)
  refine ⟨by decide, ?_, same.2.2 afterwards⟩
  exact (same.2.1 meanwhile (List.prefix_refl meanwhile)).trans (by decide)

end Lockstep.Barrier
