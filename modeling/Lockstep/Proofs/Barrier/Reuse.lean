import Lockstep.Proofs.Barrier.AllOrNothing
import Lockstep.Proofs.Barrier.Renaming
import Lockstep.Proofs.Barrier.Rest

/-!
# A barrier is as good as new

After a release or a reset a barrier holds nothing of what was before but the
outcomes of its past generations, and only the waits left over from them look at
these. So it goes on as a new barrier does, but for the numbers of its
generations, and the waits left over change nothing for the others.
-/
namespace Lockstep.Barrier

def Failure.later (generations : Nat) : Failure → Failure
  | .brokenBefore g => .brokenBefore (g + generations)
  | .brokenDuring g => .brokenDuring (g + generations)
  | .missing t g => .missing t (g + generations)

/-- The same result in a generation that comes this much later. -/
def Result.later (generations : Nat) : Result → Result
  | .released index => .released index
  | .failed why => .failed (why.later generations)

/-- The generations come after those with these outcomes. -/
def Renaming.after (past : Array Outcome) : Renaming where
  past := past
  ticket := fun _ t => t

private theorem Result.renamed_after (past : Array Outcome) (result : Result) :
    result.renamed (.after past) = result.later past.size := by
  cases result with
  | released index => rfl
  | failed why => cases why <;> rfl

private theorem Renaming.after_fits (past : Array Outcome) (b : Barrier) : (Renaming.after past).Fits b where
  injective := fun _ => Function.injective_id
  counts := fun _ _ => rfl
  later := fun _ _ _ => rfl

variable {Name : Type} [DecidableEq Name]

namespace Run

/-- The runs differ in what they have come to so far, at most. -/
structure SameState (r r' : Run Name) : Prop where
  barrier : r.barrier = r'.barrier
  now : r.now = r'.now
  waits : r.waits = r'.waits

private theorem SameState.find? {r r' : Run Name} (same : r.SameState r') : r.find? = r'.find? :=
  find?_of_waits same.waits

private theorem SameState.events {r r' : Run Name} (same : r.SameState r') (op : Operation Name) :
    r.events op = r'.events op := by
  cases op <;> simp only [Run.events, same.find?, same.barrier, same.now]

private theorem SameState.perform {r r' : Run Name} (same : r.SameState r') (op : Operation Name) :
    (r.perform op).SameState (r'.perform op) := by
  obtain ⟨barrier, now, waits⟩ := same
  cases op with
  | create name timeout =>
    simp only [Run.perform, create, find?_of_waits waits]
    split
    · exact ⟨barrier, now, waits⟩
    · exact ⟨barrier, now, by rw [waits]⟩
  | poll name =>
    simp only [Run.perform]
    cases found : r.find? name with
    | none =>
      rw [poll_absent found, poll_absent ((congrFun (find?_of_waits waits) name).symm.trans found)]
      exact ⟨barrier, now, waits⟩
    | some w =>
      have found' := (congrFun (find?_of_waits waits) name).symm.trans found
      cases polled : (r.barrier.poll r.now w).2.1 with
      | pending w' =>
        rw [poll_pending found polled, poll_pending found' (by rw [← barrier, ← now]; exact polled)]
        exact ⟨by simp only [barrier, now], now, by simp only [put, waits]⟩
      | done result =>
        rw [poll_done found polled, poll_done found' (by rw [← barrier, ← now]; exact polled)]
        exact ⟨by simp only [barrier, now], now, by simp only [remove, waits]⟩
  | drop name =>
    simp only [Run.perform]
    cases found : r.find? name with
    | none =>
      rw [drop_absent found, drop_absent ((congrFun (find?_of_waits waits) name).symm.trans found)]
      exact ⟨barrier, now, waits⟩
    | some w =>
      rw [drop_found found, drop_found ((congrFun (find?_of_waits waits) name).symm.trans found)]
      exact ⟨by simp only [barrier], now, by simp only [remove, waits]⟩
  | advance ms => exact ⟨barrier, by simp only [Run.perform, now], waits⟩
  | abort => exact ⟨by simp only [Run.perform, barrier], now, waits⟩
  | reset => exact ⟨by simp only [Run.perform, barrier], now, waits⟩

/-- Only the wait that an operation is about can finish by it. -/
private theorem name?_of_result {r : Run Name} {op : Operation Name} {e : Name × Result}
    (member : e ∈ (r.events op).filterMap Event.result?) : op.name? = some e.1 := by
  obtain ⟨event, shown, result⟩ := List.mem_filterMap.mp member
  cases op with
  | poll name =>
    cases found : r.find? name with
    | none => simp [events, found] at shown
    | some w =>
      simp only [events, found] at shown
      obtain ⟨tail, returns, eq | eq⟩ := pollEvents_cases r.barrier r.now name w
      · obtain ⟨g, result', rfl⟩ := returns event (eq ▸ shown)
        simp only [Event.result?, Option.some.injEq] at result
        rw [← result]
        rfl
      · rw [eq] at shown
        rcases List.mem_cons.mp shown with rfl | later
        · cases result
        · obtain ⟨g, result', rfl⟩ := returns event later
          simp only [Event.result?, Option.some.injEq] at result
          rw [← result]
          rfl
  | drop name =>
    cases found : r.find? name with
    | none => simp [events, found] at shown
    | some w =>
      cases arrival : w.arrival with
      | none => simp [events, found, dropEvents, arrival] at shown
      | some a =>
        simp only [events, found, dropEvents, arrival, List.mem_singleton] at shown
        rw [shown] at result
        cases result
  | _ => simp [events] at shown

private theorem events_only {keep : Name → Bool} {op : Operation Name} (kept : op.name?.all keep = true)
    (r : Run Name) : (r.only keep).events op = r.events op := by
  cases op with
  | poll name =>
    have kept : keep name = true := by simpa [Operation.name?] using kept
    simp only [events, find?_only, kept, if_true]
    rfl
  | drop name =>
    have kept : keep name = true := by simpa [Operation.name?] using kept
    simp only [events, find?_only, kept, if_true]
  | _ => rfl

private theorem only_remove (keep : Name → Bool) {name : Name} (gone : keep name = false) (r : Run Name) :
    (r.remove name).only keep = r.only keep := by
  simp only [only, remove, List.filter_filter]
  congr 1
  refine List.filter_congr fun e _ => ?_
  by_cases here : e.1 = name <;> simp [here, gone]

/-- The second run is the first one without the waits left over, with the generations counted anew. -/
structure Beside (left : Name → Bool) (past : Array Outcome) (before : List (Name × Result)) (r f : Run Name) :
    Prop where
  same : (r.only fun name => !left name).SameState (f.renamed (.after past))
  results : r.results.filter (fun e => !left e.1) = before ++ (f.renamed (.after past)).results
  stale : ∀ name w, left name = true → r.find? name = some w → ∃ a, w.arrival = some a ∧ a.generation < past.size

section
variable {left : Name → Bool} {past : Array Outcome} {before : List (Name × Result)} {r f : Run Name}

private theorem Beside.other (beside : Beside left past before r f) (sound : Sound f.barrier f.blocked)
    {op : Operation Name} (kept : op.spares left = true) : Beside left past before (r.perform op) (f.perform op) where
  same := by
    rw [← perform_only kept, ← perform_renamed sound (Renaming.after_fits past f.barrier)]
    exact beside.same.perform op
  results := by
    have events : r.events op = (f.renamed (.after past)).events op := by
      rw [← beside.same.events, events_only kept]
    rw [← perform_renamed sound (Renaming.after_fits past f.barrier), results_perform, results_perform,
      List.filter_append, beside.results, events, List.append_assoc]
    congr 2
    refine List.filter_eq_self.mpr fun e member => ?_
    have named := name?_of_result member
    simpa [Operation.spares, named] using kept
  stale := fun name w leftover found => by
    have other : op.name? ≠ some name := fun named => by simp [Operation.spares, named, leftover] at kept
    exact beside.stale name w leftover ((find?_perform other).symm.trans found)

/-- A wait that is left over finishes or goes away by itself. -/
private theorem Beside.without (beside : Beside left past before r f) {name : Name} (leftover : left name = true)
    {r' : Run Name} (barrier : r'.barrier = r.barrier) (now : r'.now = r.now) (waits : r'.waits = (r.remove name).waits)
    (results : r'.results.filter (fun e => !left e.1) = r.results.filter fun e => !left e.1) :
    Beside left past before r' f where
  same := by
    have kept : (r'.only fun name => !left name).waits = (r.only fun name => !left name).waits := by
      have gone : (!left name) = false := by simp [leftover]
      rw [← only_remove (fun name => !left name) gone r]
      simp only [only, waits]
    exact ⟨barrier.trans beside.same.barrier, now.trans beside.same.now, kept.trans beside.same.waits⟩
  results := results.trans beside.results
  stale := fun other w leftover' found => by
    rw [find?_of_waits waits, find?_remove] at found
    split at found
    · cases found
    · exact beside.stale other w leftover' found

private theorem Beside.outcome? (beside : Beside left past before r f) {g : Nat} (old : g < past.size) :
    r.barrier.outcome? g = some past[g] := by
  have barrier : r.barrier = f.barrier.renamed (.after past) := beside.same.barrier
  have size : g < (Renaming.after past).past.size := old
  simp only [barrier, Barrier.outcome?, Barrier.renamed, Array.getElem?_append_left size]
  exact Array.getElem?_eq_getElem old

private theorem Beside.poll (beside : Beside left past before r f) {name : Name} (leftover : left name = true) :
    Beside left past before (r.poll name) f := by
  cases found : r.find? name with
  | none => rwa [poll_absent found]
  | some w =>
    obtain ⟨a, arrived, old⟩ := beside.stale name w leftover found
    have polled := poll_of_outcome arrived (beside.outcome? old) r.now
    rw [poll_done found (by rw [polled]), polled]
    exact beside.without leftover rfl rfl rfl (by simp [leftover])

private theorem Beside.drop (beside : Beside left past before r f) {name : Name} (leftover : left name = true) :
    Beside left past before (r.drop name) f := by
  cases found : r.find? name with
  | none => rwa [drop_absent found]
  | some w =>
    obtain ⟨a, arrived, old⟩ := beside.stale name w leftover found
    have generation : r.barrier.generation = f.barrier.generation + past.size :=
      congrArg Barrier.generation beside.same.barrier
    have past' : r.barrier.generation ≠ a.generation ∨ r.barrier.broken = true := .inl (by omega)
    have dropped : (r.barrier.drop w).1 = r.barrier := by simp [Barrier.drop, arrived, leave_past past']
    rw [drop_found found]
    exact beside.without leftover dropped rfl rfl rfl

theorem Beside.run (beside : Beside left past before r f) (sound : Sound f.barrier f.blocked)
    {ops : List (Operation Name)} (apart : ∀ name timeout, .create name timeout ∈ ops → left name = false) :
    Beside left past before (r.run ops) (f.run (ops.filter (·.spares left))) := by
  induction ops generalizing r f with
  | nil => exact beside
  | cons op ops ih =>
    have later : ∀ name timeout, .create name timeout ∈ ops → left name = false :=
      fun name timeout member => apart name timeout (List.mem_cons_of_mem _ member)
    by_cases kept : op.spares left = true
    · rw [List.filter_cons_of_pos kept]
      exact ih (beside.other sound kept) ((f.perform_moves sound op).sound sound) later
    · -- A wait left over finishes on one side only, where it changes nothing but itself.
      rw [List.filter_cons_of_neg kept]
      refine ih ?_ sound later
      cases op with
      | create name timeout =>
        simp [Operation.spares, Operation.name?, apart name timeout List.mem_cons_self] at kept
      | poll name => exact beside.poll (by simpa [Operation.spares, Operation.name?] using kept)
      | drop name => exact beside.drop (by simpa [Operation.spares, Operation.name?] using kept)
      | _ => simp [Operation.spares, Operation.name?] at kept

end

end Run

private theorem releases_abort (b : Barrier) : b.abort.2.releases = 0 := by
  unfold abort
  split <;> rfl

private theorem releases_pollBlocked (b : Barrier) (now : Nat) (w : Wait) (a : Arrival) :
    (b.pollBlocked now w a).2.2.releases = 0 := by
  rcases pollBlocked_cases b now w a with ⟨_, _, eq⟩ | ⟨_, _, eq⟩ | ⟨_, _, eq⟩
  · rw [eq]
  · rw [eq]
    exact b.releases_abort
  · rw [eq]

private theorem releases_drop (b : Barrier) (w : Wait) : (b.drop w).2.releases = 0 := by
  cases arrival : w.arrival with
  | none => simp [drop, arrival]
  | some a =>
    have leave : (b.leave a).2.releases = 0 := by
      unfold leave
      split
      · rfl
      · split
        · exact b.releases_abort
        · rfl
    simp only [drop, arrival]
    exact leave

/-- Nothing but the last arrival counts as a release. -/
private theorem released_of_releases {b : Barrier} {now : Nat} {w : Wait} (releases : (b.poll now w).2.2.releases ≠ 0) :
    (b.poll now w).1 = b.released := by
  cases arrival : w.arrival with
  | some a =>
    simp only [poll, arrival] at releases
    exact absurd (b.releases_pollBlocked now w a) releases
  | none =>
    simp only [poll, arrival] at releases ⊢
    rcases arrive_cases b now w with ⟨_, eq⟩ | ⟨_, _, eq⟩ | ⟨_, _, a, _, eq⟩
    · simp [eq] at releases
    · rw [eq]
    · rw [eq] at releases
      have none : ({ waiting := 1 } + (b.joined.pollBlocked now w a).2.2 : Meter).releases =
          0 + (b.joined.pollBlocked now w a).2.2.releases := rfl
      rw [releases_pollBlocked] at none
      exact absurd none releases

namespace Run

/-- The operation is a reset, or it releases a generation. -/
def Renews (r : Run Name) (op : Operation Name) : Prop :=
  op = .reset ∨ (r.perform op).meter.releases = r.meter.releases + 1

/-- After a release or a reset the barrier holds nothing but the outcomes so far. -/
private theorem Renews.barrier {r : Run Name} {op : Operation Name} (renews : r.Renews op) :
    (r.perform op).barrier.waiting = [] ∧ (r.perform op).barrier.nextTicket = 0 ∧
      (r.perform op).barrier.broken = false := by
  rcases renews with rfl | releases
  · rw [show (r.perform .reset).barrier = r.barrier.reset.1 from rfl, reset_eq]
    exact ⟨rfl, rfl, rfl⟩
  · have more : ∀ m : Meter, (r.meter + m).releases = r.meter.releases + m.releases := fun _ => rfl
    cases op with
    | poll name =>
      simp only [perform] at releases ⊢
      cases found : r.find? name with
      | none => simp [poll_absent found] at releases
      | some w =>
        obtain ⟨barrier, meter⟩ : (r.poll name).barrier = (r.barrier.poll r.now w).1 ∧
            (r.poll name).meter = r.meter + (r.barrier.poll r.now w).2.2 := by
          cases polled : (r.barrier.poll r.now w).2.1 with
          | pending w' => simp [poll_pending found polled]
          | done result => simp [poll_done found polled]
        rw [meter, more] at releases
        rw [barrier, released_of_releases (by omega)]
        exact ⟨rfl, rfl, rfl⟩
    | drop name =>
      simp only [perform] at releases
      cases found : r.find? name with
      | none => simp [drop_absent found] at releases
      | some w => simp [drop_found found, more, releases_drop] at releases
    | create name timeout =>
      simp only [perform, create] at releases
      split at releases <;> simp at releases
    | advance ms => simp [perform] at releases
    | abort => simp [perform, more, releases_abort] at releases
    | reset => simp [reset_eq, perform, advance]

end Run

/-- Such a barrier is a new one with other numbers. -/
private theorem eq_renamed {b : Barrier} (waiting : b.waiting = []) (next : b.nextTicket = 0)
    (unbroken : b.broken = false) (size : b.outcomes.size = b.generation) :
    b = ({ options := b.options } : Barrier).renamed (.after b.outcomes) := by
  obtain ⟨options, _, _, generation, _, outcomes⟩ := b
  simp only at waiting next unbroken size
  subst waiting next unbroken size
  simp [renamed, Renaming.after]

namespace Run

variable {r : Run Name}

private theorem Valid.left_iff (valid : r.Valid) {e : Name × Wait} (member : e ∈ r.waits) :
    (r.blocked e.1).isSome = e.2.arrival.isSome := by
  simp [blocked, valid.distinct.find?_of_mem (show (e.1, e.2) ∈ r.waits from member)]

/-- A run whose barrier holds nothing but outcomes is one of a new barrier, beside the waits left over. -/
private theorem Valid.beside (valid : r.Valid) (waiting : r.barrier.waiting = []) (next : r.barrier.nextTicket = 0)
    (unbroken : r.barrier.broken = false) :
    let left := fun name => (r.blocked name).isSome
    Beside left r.barrier.outcomes (r.results.filter fun e => !left e.1) r
      { barrier := { options := r.barrier.options }, now := r.now, waits := r.waits.filter (·.2.arrival.isNone) } := by
  intro left
  have size : r.barrier.outcomes.size = r.barrier.generation := by simpa [unbroken] using valid.sound.settled
  refine ⟨⟨eq_renamed waiting next unbroken size, rfl, ?_⟩, by simp [renamed], fun name w leftover found => ?_⟩
  · have idle : r.waits.filter (fun e => !left e.1) = r.waits.filter (·.2.arrival.isNone) :=
      List.filter_congr fun e member => by simp only [left, valid.left_iff member, Option.not_isSome]
    rw [only, idle]
    refine ((List.map_congr_left fun e member => ?_).trans (List.map_id _)).symm
    have unarrived : e.2.arrival = none := by simpa using (List.mem_filter.mp member).2
    have same : e.2.renamed (.after r.barrier.outcomes) = e.2 := by
      rw [Wait.renamed, unarrived, Option.map_none, ← unarrived]
    simp only [same, id]
  · obtain ⟨a, blocked⟩ := Option.isSome_iff_exists.mp leftover
    have arrived : w.arrival = some a := by simpa [Run.blocked, found] using blocked
    refine ⟨a, arrived, size ▸ Nat.lt_of_le_of_ne (valid.sound.begun blocked) fun current => ?_⟩
    have counted := valid.sound.counted unbroken blocked current
    rw [waiting] at counted
    cases counted

end Run

/-- After a release or a reset a barrier does for new waits, which have names of their own, what a new one would do from
    this time on, whatever is done to the waits left over from its past generations: the same results, and the same
    status after any operations, but that its generations come later. -/
theorem reused_as_new {o : Options} {b : Barrier} (made : new? o = some b) (earlier : List (Operation Name))
    (op : Operation Name) (ops : List (Operation Name)) :
    let used := (({ barrier := b } : Run Name).run earlier).perform op
    let left := fun name => (used.blocked name).isSome
    let new : Run Name := { barrier := b, now := used.now, waits := used.waits.filter (·.2.arrival.isNone) }
    let fresh := new.run (ops.filter (·.spares left))
    (({ barrier := b } : Run Name).run earlier).Renews op →
    (∀ name timeout, .create name timeout ∈ ops → left name = false) →
    (used.run ops).barrier.status =
        { fresh.barrier.status with generation := fresh.barrier.status.generation + used.barrier.generation } ∧
      (used.run ops).results.filter (fun e => !left e.1) = used.results.filter (fun e => !left e.1) ++
        fresh.results.map fun e => (e.1, e.2.later used.barrier.generation) := by
  intro used left new fresh renews apart
  have start : ({ barrier := b } : Run Name).Valid := .new made
  obtain ⟨positive, rfl⟩ := new?_eq_some made
  have valid : used.Valid := (start.run earlier).perform op
  have options : used.barrier.options = o :=
    ((Run.run _ earlier).perform_moves (start.run earlier).sound op).options.trans
      (Run.run_moves _ start.sound earlier).options
  obtain ⟨waiting, next, unbroken⟩ : _ ∧ _ ∧ used.barrier.broken = false := renews.barrier
  have size : used.barrier.outcomes.size = used.barrier.generation := by simpa [unbroken] using valid.sound.settled
  have beside := valid.beside waiting next unbroken
  rw [options] at beside
  have nobody : new.blocked = fun _ => none := by
    funext name
    refine Option.bind_eq_none_iff.mpr fun w found => ?_
    simpa using (List.mem_filter.mp (Run.mem_of_find? found)).2
  have sound : Sound new.barrier new.blocked := by
    rw [nobody]
    exact Sound.fresh positive
  obtain ⟨⟨barrier, _, _⟩, results, _⟩ := beside.run sound apart
  refine ⟨?_, ?_⟩
  · rw [← size]
    exact (congrArg status barrier).trans (status_renamed _ _)
  · rw [show (used.run ops).results.filter (fun e => !left e.1) = _ from results, ← size]
    simp only [Run.renamed, Result.renamed_after]
    rfl

/-- The first of two parties has not been polled since the second released it. -/
def firstRound : List (Operation (Fin 3)) :=
  [.create 0 none, .create 1 none, .poll 0]

/-- The party left over from the first round is polled between two others, one of which is late. -/
def secondRound : List (Operation (Fin 3)) :=
  [.create 2 (some 3), .poll 2, .poll 0, .advance 3, .poll 2, .create 1 none, .poll 1]

theorem reused_as_new_second_round :
    let used := (Run.run { barrier := { options := ⟨2, .breakGeneration⟩ } } firstRound).perform (.poll 1)
    let left := fun name => (used.blocked name).isSome
    let fresh := Run.run { barrier := { options := ⟨2, .breakGeneration⟩ } } (secondRound.filter (·.spares left))
    used.blocked 0 = some ⟨0, 0, none⟩ ∧ fresh.results = [(2, .failed (.brokenDuring 0)), (1, .failed (.brokenBefore 0))] ∧
      (used.run secondRound).barrier.status = ⟨2, 0, true, 1⟩ ∧
      (used.run secondRound).results.filter (fun e => !left e.1) =
        [(1, .released 1), (2, .failed (.brokenDuring 1)), (1, .failed (.brokenBefore 1))] := by
  have renews : (Run.run { barrier := { options := ⟨2, .breakGeneration⟩ } } firstRound).Renews (.poll 1) :=
    .inr (by decide)
  obtain ⟨status, results⟩ := reused_as_new (o := ⟨2, .breakGeneration⟩) rfl firstRound (.poll 1) secondRound renews
    fun name timeout made => by
      have new : name = 2 ∧ timeout = some 3 ∨ name = 1 ∧ timeout = none := by simpa [secondRound] using made
      rcases new with ⟨rfl, _⟩ | ⟨rfl, _⟩ <;> decide
  exact ⟨by decide, by decide, status.trans (by decide), results.trans (by decide)⟩

end Lockstep.Barrier
