import Lockstep.Proofs.Barrier.Accounts
import Lockstep.Proofs.Registry.Lookup
import Lockstep.Proofs.Registry.Waits

/-!
# What the metrics say

All barriers of a registry count into one meter. In every run it agrees with what
was seen of the barriers: each generation that was released or broken counts once,
and the gauge stands at the number of waits that have arrived and are neither
finished nor given up.
-/
namespace Lockstep.Registry
open Barrier (Account Adds Arrival Blocked Books Incident Sound)

/-- The wait that is left after a poll, if it is not finished. -/
def unfinished? : Barrier.Poll → Option Barrier.Wait
  | .pending w => some w
  | .done _ => none

/-- What was seen of the barriers of a registry, each incident with the place of its barrier. -/
abbrev History (Name : Type) :=
  List (Place × Incident Name)

section
variable {Name : Type}

/-- The generations that these incidents are about, as far as they are about one. -/
def generations (about : Incident Name → Option Nat) (h : History Name) : Finset (Place × Nat) :=
  (h.filterMap fun e => (about e.2).map (e.1, ·)).toFinset

/-- The generations of which a party was told that they are released. -/
def released (h : History Name) : Finset (Place × Nat) :=
  generations Incident.released? h

/-- The generations that something broke, however often. -/
def broken (h : History Name) : Finset (Place × Nat) :=
  generations Incident.broken? h

def resets (h : History Name) (place : Place) : Nat :=
  h.countP fun e => e.1 = place && e.2.isReset

/-- The waits that have arrived and have neither returned nor been given up. -/
def waiting [DecidableEq Name] (h : History Name) : Finset Name :=
  h.foldl (fun names e => e.2.tally names) ∅

/-- What is seen of the barrier in this place. -/
def seenAt (r : Registry) (place : Place) (see : Barrier → List (Incident Name)) : History Name :=
  match r.barrier? place with
  | some b => (see b).map (place, ·)
  | none => []

variable {h : History Name} {place p : Place} {g n : Nat} {shown : List (Incident Name)}
  {about : Incident Name → Option Nat}

private theorem seen_of_generation (member : (p, g) ∈ generations about h) : ∃ e ∈ h, e.1 = p := by
  simp only [generations, List.mem_toFinset, List.mem_filterMap, Option.map_eq_some_iff, Prod.mk.injEq] at member
  obtain ⟨e, seen, _, _, here, _⟩ := member
  exact ⟨e, seen, here⟩

private theorem mem_generations_append :
    (p, g) ∈ generations about (h ++ shown.map (place, ·)) ↔
      (p, g) ∈ generations about h ∨ (p = place ∧ g ∈ shown.filterMap about) := by
  simp only [generations, List.mem_toFinset, List.filterMap_append, List.mem_append, List.filterMap_map,
    List.mem_filterMap, Function.comp_apply, Option.map_eq_some_iff, Prod.mk.injEq]
  apply or_congr_right
  constructor
  · rintro ⟨incident, member, g', found, rfl, rfl⟩
    exact ⟨rfl, incident, member, found⟩
  · rintro ⟨rfl, incident, member, found⟩
    exact ⟨incident, member, g, found, rfl, rfl⟩

/-- What is new adds one generation, at this place. -/
private theorem generations_of_adds
    (adds : Adds (fun g => (place, g) ∈ generations about h) (shown.filterMap about) n) :
    (n = 0 ∧ generations about (h ++ shown.map (place, ·)) = generations about h) ∨
      (n = 1 ∧ ∃ g, (place, g) ∉ generations about h ∧
        generations about (h ++ shown.map (place, ·)) = insert (place, g) (generations about h)) := by
  generalize found : shown.filterMap about = gs at adds
  cases adds with
  | nothing known =>
    refine .inl ⟨rfl, ?_⟩
    ext ⟨p, g⟩
    rw [mem_generations_append, found]
    apply or_iff_left_of_imp
    rintro ⟨rfl, member⟩
    exact known g member
  | new unknown =>
    rename_i g
    refine .inr ⟨rfl, g, unknown, ?_⟩
    ext ⟨p, g'⟩
    rw [mem_generations_append, found, Finset.mem_insert, Prod.mk.injEq, List.mem_singleton, or_comm]

private theorem card_of_adds (adds : Adds (fun g => (place, g) ∈ generations about h) (shown.filterMap about) n) :
    (generations about (h ++ shown.map (place, ·))).card = (generations about h).card + n := by
  obtain ⟨rfl, same⟩ | ⟨rfl, g, unknown, more⟩ := generations_of_adds adds
  · rw [same, Nat.add_zero]
  · rw [more, Finset.card_insert_of_notMem unknown]

private theorem card_here_of_adds (adds : Adds (fun g => (place, g) ∈ generations about h) (shown.filterMap about) n) :
    ((generations about (h ++ shown.map (place, ·))).filter (·.1 = place)).card =
      ((generations about h).filter (·.1 = place)).card + n := by
  obtain ⟨rfl, same⟩ | ⟨rfl, g, unknown, more⟩ := generations_of_adds adds
  · rw [same, Nat.add_zero]
  · have absent : (place, g) ∉ (generations about h).filter (·.1 = place) := by
      intro member
      exact unknown (Finset.mem_filter.mp member).1
    rw [more, Finset.filter_insert, if_pos rfl, Finset.card_insert_of_notMem absent]

private theorem generations_elsewhere (other : p ≠ place) :
    (generations about (h ++ shown.map (place, ·))).filter (·.1 = p) = (generations about h).filter (·.1 = p) := by
  ext ⟨q, g⟩
  simp only [Finset.mem_filter, mem_generations_append]
  constructor
  · rintro ⟨before | ⟨rfl, _⟩, rfl⟩
    · exact ⟨before, rfl⟩
    · exact absurd rfl other
  · rintro ⟨before, here⟩
    exact ⟨.inl before, here⟩

private theorem resets_here : resets (h ++ shown.map (place, ·)) place = resets h place + Barrier.resetsIn shown := by
  simp [resets, List.countP_append, List.countP_map, Barrier.resetsIn, Function.comp_def]

private theorem resets_elsewhere (other : p ≠ place) : resets (h ++ shown.map (place, ·)) p = resets h p := by
  simp [resets, List.countP_append, List.countP_map, Function.comp_def, Ne.symm other]

private theorem waiting_append [DecidableEq Name] :
    waiting (h ++ shown.map (place, ·)) = shown.foldl Incident.tally (waiting h) := by
  rw [waiting, List.foldl_append, List.foldl_map]
  rfl

end

namespace Run

variable {Name : Type} [DecidableEq Name]

def incidents (r : Run Name) : Operation Name → History Name
  | .poll name =>
    match r.find? name with
    | some p => r.registry.seenAt p.place fun b => b.pollIncidents r.now name p.wait
    | none => []
  | .drop name =>
    match r.find? name with
    | some p => r.registry.seenAt p.place fun b => b.dropIncidents name p.wait
    | none => []
  | .abort place => r.registry.seenAt place Barrier.abortIncidents
  | .reset place => r.registry.seenAt place Barrier.resetIncidents
  | .getOrCreate _ | .create .. | .advance _ => []

def run (r : Run Name) (ops : List (Operation Name)) : Run Name :=
  ops.foldl perform r

/-- What operations show, in order. -/
def history (r : Run Name) : List (Operation Name) → History Name
  | [] => []
  | op :: ops => r.incidents op ++ (r.perform op).history ops

@[simp] theorem run_nil (r : Run Name) : r.run [] = r := rfl

@[simp] theorem run_cons (r : Run Name) (op : Operation Name) (ops : List (Operation Name)) :
    r.run (op :: ops) = (r.perform op).run ops := rfl

@[simp] theorem history_nil (r : Run Name) : r.history [] = [] := rfl

@[simp] theorem history_cons (r : Run Name) (op : Operation Name) (ops : List (Operation Name)) :
    r.history (op :: ops) = r.incidents op ++ (r.perform op).history ops := rfl

def arrival? (r : Run Name) (name : Name) : Option Arrival :=
  (r.find? name).bind (·.wait.arrival)

/-- The waits that are blocked at the barrier in this place. -/
def blockedAt (r : Run Name) (place : Place) : Blocked Name :=
  fun name => (r.find? name).bind fun p => if p.place = place then p.wait.arrival else none

/-- The barrier in this place was operated on, and those in other places were not. -/
structure Acts (r : Run Name) (place : Place) (b : Barrier) (blocked : Blocked Name) (m : Meter) (r' : Run Name) :
    Prop where
  registry : r'.registry = r.registry.put place b
  meter : r'.meter = r.meter + m
  here : r'.blockedAt place = blocked
  elsewhere : ∀ {other}, other ≠ place → r'.blockedAt other = r.blockedAt other

/-- How a barrier stands to what was seen of it. -/
structure Tracked (r : Run Name) (h : History Name) (place : Place) (b : Barrier) : Prop where
  sound : Sound b (r.blockedAt place)
  account : Account b (r.blockedAt place) (fun g => (place, g) ∈ released h) (fun g => (place, g) ∈ broken h)
  generation : b.generation = ((released h).filter (·.1 = place)).card + resets h place

/-- How a run stands to what was seen in it. -/
structure Booked (r : Run Name) (h : History Name) : Prop where
  seen : ∀ e ∈ h, e.1 < r.registry.size
  housed : ∀ {place name a}, r.blockedAt place name = some a → place < r.registry.size
  tracked : ∀ {place b}, r.registry.barrier? place = some b → r.Tracked h place b
  releases : r.meter.releases = (released h).card
  breaks : r.meter.breaks = (broken h).card
  gauge : r.meter.waiting = (waiting h).card
  waits : ∀ name, name ∈ waiting h ↔ (r.arrival? name).isSome
  told : ∀ {place name g why}, (place, .wait (.returned name g (.failed why))) ∈ h →
    why.fault.kind = .barrierBroken → (place, g) ∈ broken h

variable {r r' : Run Name} {h : History Name} {place p : Place} {b b' : Barrier} {blocked : Blocked Name} {m : Meter}
  {shown : List (Incident Name)}

/-- Of a barrier that is new nothing was seen. -/
private theorem Tracked.new {o : Barrier.Options} (positive : 0 < o.parties) (unseen : ∀ e ∈ h, e.1 ≠ place)
    (nobody : ∀ name, r.blockedAt place name = none) : r.Tracked h place { options := o } := by
  have blocked : r.blockedAt place = fun _ => none := funext nobody
  have unknown : ∀ about g, (place, g) ∉ generations about h := by
    intro about g member
    obtain ⟨e, seen, here⟩ := seen_of_generation member
    exact unseen e seen here
  refine ⟨?_, ?_, ?_⟩
  · rw [blocked]
    exact Sound.fresh positive
  · rw [blocked]
    exact Account.fresh.congr (by simp [released, unknown]) (by simp [broken, unknown])
  · have unreleased : (released h).filter (·.1 = place) = ∅ := by
      ext ⟨p, g⟩
      simp only [Finset.mem_filter, Finset.notMem_empty, iff_false]
      rintro ⟨member, rfl⟩
      exact unknown _ g member
    have unreset : resets h place = 0 := by
      apply List.countP_eq_zero.mpr
      intro e member
      simp [unseen e member]
    rw [unreleased, unreset]
    rfl

private theorem Tracked.acted (tracked : r.Tracked h place b) (here : r'.blockedAt place = blocked)
    (books : Books b (r.blockedAt place) (fun g => (place, g) ∈ released h) (fun g => (place, g) ∈ broken h) b' blocked
      m shown)
    (sound : Sound b' blocked) : r'.Tracked (h ++ shown.map (place, ·)) place b' := by
  refine ⟨here ▸ sound, ?_, ?_⟩
  · rw [here]
    apply books.account.congr
    · intro g
      simp [released, mem_generations_append, Barrier.releasedIn]
    · intro g
      simp [broken, mem_generations_append, Barrier.brokenIn]
  · have more := card_here_of_adds books.releases
    rw [released, more, resets_here, books.generation, tracked.generation, released]
    omega

private theorem Tracked.elsewhere (tracked : r.Tracked h p b) (other : p ≠ place)
    (same : r'.blockedAt p = r.blockedAt p) : r'.Tracked (h ++ shown.map (place, ·)) p b := by
  refine ⟨same ▸ tracked.sound, ?_, ?_⟩
  · rw [same]
    apply tracked.account.congr
    · intro g
      simp [released, mem_generations_append, other]
    · intro g
      simp [broken, mem_generations_append, other]
  · rw [released, generations_elsewhere other, resets_elsewhere other]
    exact tracked.generation

/-- What is done to one barrier is entered for it, and the others are as they were. -/
private theorem Booked.acts (booked : r.Booked h) (there : r.registry.barrier? place = some b)
    (acts : r.Acts place b' blocked m r')
    (books : Books b (r.blockedAt place) (fun g => (place, g) ∈ released h) (fun g => (place, g) ∈ broken h) b' blocked
      m shown)
    (sound : Sound b' blocked)
    (gauge : ((waiting (h ++ shown.map (place, ·))).card : Int) = (waiting h).card + m.waiting)
    (waits : ∀ name, name ∈ waiting (h ++ shown.map (place, ·)) ↔ (r'.arrival? name).isSome) :
    r'.Booked (h ++ shown.map (place, ·)) := by
  have size : r'.registry.size = r.registry.size := by rw [acts.registry, size_put]
  have inside : place < r.registry.size := lt_size_iff.mpr ⟨b, there⟩
  refine { seen := ?_, housed := ?_, tracked := ?_, releases := ?_, breaks := ?_, gauge := ?_, waits := waits
           told := ?_ }
  · intro e member
    rw [size]
    rcases List.mem_append.mp member with before | now
    · exact booked.seen e before
    · obtain ⟨_, _, rfl⟩ := List.mem_map.mp now
      exact inside
  · intro p name a arrived
    rw [size]
    by_cases here : p = place
    · exact here ▸ inside
    · rw [acts.elsewhere here] at arrived
      exact booked.housed arrived
  · intro p c found
    rw [acts.registry, barrier?_put there] at found
    by_cases here : p = place
    · rw [if_pos here] at found
      cases found
      subst here
      exact (booked.tracked there).acted acts.here books sound
    · rw [if_neg here] at found
      exact (booked.tracked found).elsewhere here (acts.elsewhere here)
  · rw [acts.meter, Meter.add_releases, booked.releases]
    exact (card_of_adds books.releases).symm
  · rw [acts.meter, Meter.add_breaks, booked.breaks]
    exact (card_of_adds books.breaks).symm
  · rw [acts.meter, Meter.add_waiting, booked.gauge]
    exact gauge.symm
  · intro p name g why told kind
    rw [broken, mem_generations_append]
    rcases List.mem_append.mp told with before | now
    · exact .inl (booked.told before kind)
    · obtain ⟨incident, member, same⟩ := List.mem_map.mp now
      cases same
      exact (books.told member kind).imp id fun here => ⟨rfl, here⟩

section
variable {name : Name} {p : Pending Name} {after : Option Barrier.Wait}

private theorem unblocked_of_unarrived (unarrived : r.arrival? name = none) (place : Place) :
    r.blockedAt place name = none := by
  unfold arrival? at unarrived
  unfold blockedAt
  cases found : r.find? name with
  | none => rfl
  | some p =>
    rw [found] at unarrived
    simp only [Option.bind_some] at unarrived ⊢
    rw [unarrived, ite_self]

/-- Nothing is done to a barrier, and the waits that come or go have not arrived. -/
private theorem Booked.still (booked : r.Booked h) (registry : r'.registry = r.registry)
    (meter : r'.meter.releases = r.meter.releases ∧ r'.meter.breaks = r.meter.breaks ∧
      r'.meter.waiting = r.meter.waiting)
    (finds : ∀ name, r'.find? name = r.find? name ∨ (r'.arrival? name = none ∧ r.arrival? name = none)) :
    r'.Booked h := by
  have blocked : ∀ place, r'.blockedAt place = r.blockedAt place := by
    intro place
    funext name
    rcases finds name with same | ⟨now, before⟩
    · simp [blockedAt, same]
    · rw [unblocked_of_unarrived now, unblocked_of_unarrived before]
  have arrival : ∀ name, r'.arrival? name = r.arrival? name := by
    intro name
    rcases finds name with same | ⟨now, before⟩
    · simp [arrival?, same]
    · rw [now, before]
  refine { seen := ?_, housed := ?_, tracked := ?_, releases := meter.1.trans booked.releases
           breaks := meter.2.1.trans booked.breaks, gauge := meter.2.2.trans booked.gauge, waits := ?_
           told := booked.told }
  · rw [registry]
    exact booked.seen
  · intro place name a arrived
    rw [blocked] at arrived
    rw [registry]
    exact booked.housed arrived
  · intro place b found
    rw [registry] at found
    obtain ⟨sound, account, generation⟩ := booked.tracked found
    rw [← blocked] at sound account
    exact ⟨sound, account, generation⟩
  · intro name
    rw [arrival]
    exact booked.waits name

/-- A new barrier is entered behind the others. -/
private theorem Booked.enters (booked : r.Booked h) (key : PartitionKey) {o : Barrier.Options}
    (positive : 0 < o.parties) (m : Meter) (counts : m.releases = 0 ∧ m.breaks = 0 ∧ m.waiting = 0) :
    ({ r with
      registry := { r.registry with entries := r.registry.entries.push (key, { options := o }) }
      meter := r.meter + m } : Run Name).Booked h := by
  have size : Registry.size { r.registry with entries := r.registry.entries.push (key, { options := o }) } =
      r.registry.size + 1 := Array.size_push _
  refine { seen := ?_, housed := ?_, tracked := ?_, releases := ?_, breaks := ?_, gauge := ?_, waits := booked.waits
           told := booked.told }
  · intro e member
    rw [size]
    exact Nat.lt_succ_of_lt (booked.seen e member)
  · intro place name a arrived
    rw [size]
    exact Nat.lt_succ_of_lt (booked.housed arrived)
  · intro place b found
    rw [barrier?_push] at found
    by_cases last : place = r.registry.size
    · rw [if_pos last] at found
      cases found
      apply Tracked.new positive
      · intro e member
        rw [last]
        exact Nat.ne_of_lt (booked.seen e member)
      · intro name
        by_contra arrived
        obtain ⟨a, arrived⟩ := Option.ne_none_iff_exists'.mp arrived
        exact absurd (booked.housed arrived) (Nat.not_lt_of_le (Nat.le_of_eq last.symm))
    · rw [if_neg last] at found
      obtain ⟨sound, account, generation⟩ := booked.tracked found
      exact ⟨sound, account, generation⟩
  · rw [Meter.add_releases, counts.1]
    exact booked.releases
  · rw [Meter.add_breaks, counts.2.1]
    exact booked.breaks
  · rw [Meter.add_waiting, counts.2.2, Int.add_zero]
    exact booked.gauge

/-- The wait with this name has come to this, and the others are as they were. -/
def Comes (r : Run Name) (name : Name) (p : Pending Name) (after : Option Barrier.Wait) (r' : Run Name) : Prop :=
  ∀ other, r'.find? other = if other = name then after.map fun w => { p with wait := w } else r.find? other

private theorem Comes.here (comes : r.Comes name p after r') (found : r.find? name = some p) :
    r'.blockedAt p.place = Function.update (r.blockedAt p.place) name (after.bind (·.arrival)) := by
  funext other
  by_cases same : other = name
  · subst same
    cases after <;> simp [blockedAt, comes other]
  · simp [blockedAt, comes other, same]

private theorem Comes.elsewhere (comes : r.Comes name p after r') (found : r.find? name = some p)
    (away : place ≠ p.place) : r'.blockedAt place = r.blockedAt place := by
  funext other
  by_cases same : other = name
  · subst same
    cases after <;> simp [blockedAt, comes other, found, Ne.symm away]
  · simp [blockedAt, comes other, same]

private theorem Comes.waits (comes : r.Comes name p after r') (booked : r.Booked h) (other : Name) :
    other ∈ Barrier.counted (waiting h) name (after.bind (·.arrival)) ↔ (r'.arrival? other).isSome := by
  by_cases same : other = name
  · subst same
    cases after with
    | none => simp [Barrier.counted, arrival?, comes other]
    | some w => cases arrival : w.arrival <;> simp [Barrier.counted, arrival?, comes other, arrival]
  · have kept : r'.arrival? other = r.arrival? other := by simp [arrival?, comes other, same]
    rw [kept, ← booked.waits other, Barrier.counted]
    split <;> simp [same]

private theorem Booked.counted (booked : r.Booked h) (found : r.find? name = some p) :
    name ∈ waiting h ↔ p.wait.arrival.isSome := by
  rw [booked.waits, arrival?, found]
  rfl

/-- A barrier is operated on by one of the waits at it. -/
private theorem Booked.comes (booked : r.Booked h) (found : r.find? name = some p)
    (there : r.registry.barrier? p.place = some b) (registry : r'.registry = r.registry.put p.place b')
    (meter : r'.meter = r.meter + m) (comes : r.Comes name p after r')
    (books : Books b (r.blockedAt p.place) (fun g => (p.place, g) ∈ released h) (fun g => (p.place, g) ∈ broken h) b'
      (Function.update (r.blockedAt p.place) name (after.bind (·.arrival))) m shown)
    (sound : Sound b' (Function.update (r.blockedAt p.place) name (after.bind (·.arrival))))
    (tally : shown.foldl Incident.tally (waiting h) = Barrier.counted (waiting h) name (after.bind (·.arrival)))
    (counts : m.waiting = Barrier.gauge (after.bind (·.arrival)) - Barrier.gauge p.wait.arrival) :
    r'.Booked (h ++ shown.map (p.place, ·)) := by
  refine booked.acts there ⟨registry, meter, comes.here found, comes.elsewhere found⟩ books sound ?_ ?_
  · rw [waiting_append, tally, Barrier.card_counted (booked.counted found), counts]
  · rw [waiting_append, tally]
    exact comes.waits booked

private theorem arrival_unfinished? (polled : Barrier.Poll) :
    (unfinished? polled).bind (·.arrival) = polled.arrival := by
  cases polled <;> rfl

private theorem poll_there (found : r.find? name = some p) (there : r.registry.barrier? p.place = some b) :
    (r.poll name).registry = r.registry.put p.place (b.poll r.now p.wait).1 ∧
      (r.poll name).meter = r.meter + (b.poll r.now p.wait).2.2 ∧
      r.Comes name p (unfinished? (b.poll r.now p.wait).2.1) (r.poll name) := by
  cases polled : (b.poll r.now p.wait).2.1 with
  | pending w =>
    have eq : r.poll name = { r.put name w with
        registry := r.registry.put p.place (b.poll r.now p.wait).1, meter := r.meter + (b.poll r.now p.wait).2.2 } := by
      simp [poll, found, there, polled, put]
    rw [eq]
    refine ⟨rfl, rfl, ?_⟩
    intro other
    refine (r.find?_put name w other).trans ?_
    rw [found]
    rfl
  | done result =>
    have eq : r.poll name = { r.remove name with
        registry := r.registry.put p.place (b.poll r.now p.wait).1, meter := r.meter + (b.poll r.now p.wait).2.2
        results := r.results ++ [(name, result)] } := by
      simp [poll, found, there, polled, remove]
    rw [eq]
    exact ⟨rfl, rfl, r.find?_remove name⟩

private theorem Booked.poll (booked : r.Booked h) (name : Name) :
    (r.poll name).Booked (h ++ r.incidents (.poll name)) := by
  cases found : r.find? name with
  | none => simpa [Run.poll, incidents, found] using booked
  | some p =>
    cases there : r.registry.barrier? p.place with
    | none => simpa [Run.poll, incidents, found, seenAt, there] using booked
    | some b =>
      obtain ⟨registry, meter, comes⟩ := poll_there found there
      obtain ⟨sound, account, _⟩ := booked.tracked there
      have known : r.blockedAt p.place name = p.wait.arrival := by simp [blockedAt, found]
      have shows : r.incidents (.poll name) = (b.pollIncidents r.now name p.wait).map (p.place, ·) := by
        simp [incidents, found, seenAt, there]
      rw [shows]
      apply booked.comes found there registry meter comes
      · rw [arrival_unfinished?]
        exact Barrier.poll_books account sound known r.now
      · rw [arrival_unfinished?]
        exact (Barrier.poll_moves sound r.now known).sound sound
      · rw [arrival_unfinished?]
        exact Barrier.tally_poll (booked.counted found) r.now
      · rw [arrival_unfinished?]
        exact Barrier.waiting_poll ..

private theorem drop_there (found : r.find? name = some p) (there : r.registry.barrier? p.place = some b) :
    r.drop name = { r.remove name with
      registry := r.registry.put p.place (b.drop p.wait).1, meter := r.meter + (b.drop p.wait).2 } := by
  simp [drop, found, update, Registry.update, remove, there]

/-- A wait that has arrived is at a barrier. -/
private theorem Booked.unarrived (booked : r.Booked h) (found : r.find? name = some p)
    (absent : r.registry.barrier? p.place = none) : p.wait.arrival = none := by
  by_contra arrived
  obtain ⟨a, arrived⟩ := Option.ne_none_iff_exists'.mp arrived
  have blocked : r.blockedAt p.place name = some a := by simp [blockedAt, found, arrived]
  obtain ⟨b, here⟩ := lt_size_iff.mp (booked.housed blocked)
  rw [absent] at here
  cases here

private theorem Booked.drop (booked : r.Booked h) (name : Name) :
    (r.drop name).Booked (h ++ r.incidents (.drop name)) := by
  cases found : r.find? name with
  | none => simpa [Run.drop, incidents, found] using booked
  | some p =>
    cases there : r.registry.barrier? p.place with
    | none =>
      have unarrived := booked.unarrived found there
      have dropped : r.drop name = r.remove name := by
        simp [Run.drop, found, Run.update, Registry.update, remove, there, Meter.add_empty]
      have shows : r.incidents (.drop name) = [] := by simp [incidents, found, seenAt, there]
      rw [shows, List.append_nil, dropped]
      refine booked.still rfl ⟨rfl, rfl, rfl⟩ ?_
      intro other
      rw [find?_remove]
      by_cases same : other = name
      · subst same
        exact .inr ⟨by simp [arrival?, find?_remove], by simp [arrival?, found, unarrived]⟩
      · exact .inl (if_neg same)
    | some b =>
      obtain ⟨sound, account, _⟩ := booked.tracked there
      have known : r.blockedAt p.place name = p.wait.arrival := by simp [blockedAt, found]
      have comes : r.Comes name p none (r.drop name) := by
        rw [drop_there found there]
        exact r.find?_remove name
      have shows : r.incidents (.drop name) = (b.dropIncidents name p.wait).map (p.place, ·) := by
        simp [incidents, found, seenAt, there]
      rw [shows]
      apply booked.comes found there _ _ comes
      · exact Barrier.drop_books account sound
      · exact (Barrier.drop_moves known).sound sound
      · exact Barrier.tally_drop (booked.counted found)
      · simp [Barrier.waiting_drop]
      · rw [drop_there found there]
      · rw [drop_there found there]

omit [DecidableEq Name] in
private theorem update_there (there : r.registry.barrier? place = some b) (f : Barrier → Barrier × Meter) :
    r.update place f = { r with registry := r.registry.put place (f b).1, meter := r.meter + (f b).2 } := by
  simp [update, Registry.update, there]

/-- A barrier is operated on, and no wait comes or goes. -/
private theorem Booked.update (booked : r.Booked h) {f : Barrier → Barrier × Meter}
    {see : Barrier → List (Incident Name)}
    (books : ∀ {b R B} {blocked : Blocked Name}, Account b blocked R B → Sound b blocked →
      Books b blocked R B (f b).1 blocked (f b).2 (see b))
    (sound : ∀ {b} {blocked : Blocked Name}, Sound b blocked → Sound (f b).1 blocked)
    (still : ∀ b, (f b).2.waiting = 0) (unseen : ∀ b (names : Finset Name), (see b).foldl Incident.tally names = names)
    (place : Place) : (r.update place f).Booked (h ++ r.registry.seenAt place see) := by
  cases there : r.registry.barrier? place with
  | none => simpa [Run.update, Registry.update, seenAt, there, Meter.add_empty] using booked
  | some b =>
    have tracked := booked.tracked there
    have shows : r.registry.seenAt place see = (see b).map (place, ·) := by simp [seenAt, there]
    rw [shows, update_there there]
    refine booked.acts there ⟨rfl, rfl, rfl, fun _ => rfl⟩ (books tracked.account tracked.sound) (sound tracked.sound)
      ?_ ?_
    · rw [waiting_append, unseen, still, Int.add_zero]
    · rw [waiting_append, unseen]
      exact booked.waits

private theorem Booked.perform (booked : r.Booked h) (op : Operation Name) :
    (r.perform op).Booked (h ++ r.incidents op) := by
  cases op with
  | getOrCreate key =>
    rw [incidents, List.append_nil]
    rcases r.registry.getOrCreate_cases key with ⟨place, _, got⟩ | ⟨_, positive, got⟩ | ⟨_, _, got⟩
    · simpa [Run.perform, got, Meter.add_empty] using booked
    · have entered := booked.enters key positive { created := 1 } ⟨rfl, rfl, rfl⟩
      simpa [Run.perform, got] using entered
    · rw [Run.perform, got]
      exact booked.still rfl ⟨rfl, rfl, Int.add_zero _⟩ fun name => .inl rfl
  | create name place timeout =>
    rw [incidents, List.append_nil]
    cases found : r.find? name with
    | some p => simpa [Run.perform, create, found] using booked
    | none =>
      have registry : (r.create name place timeout).registry = r.registry := by simp [create, found]
      have meter : (r.create name place timeout).meter = r.meter := by simp [create, found]
      rw [Run.perform]
      refine booked.still registry (by simp [meter]) ?_
      intro other
      have finds := find?_create found place timeout other
      by_cases same : other = name
      · subst same
        exact .inr ⟨by simp [arrival?, finds], by simp [arrival?, found]⟩
      · exact .inl (finds.trans (if_neg same))
  | poll name => exact booked.poll name
  | drop name => exact booked.drop name
  | advance ms =>
    rw [incidents, List.append_nil]
    exact booked.still rfl ⟨rfl, rfl, rfl⟩ fun name => .inl rfl
  | abort place =>
    refine booked.update Barrier.abort_books ?_ Barrier.waiting_abort (fun _ _ => rfl) place
    intro b blocked sound
    exact (Barrier.abort_moves b blocked).sound sound
  | reset place =>
    refine booked.update Barrier.reset_books ?_ Barrier.waiting_reset ?_ place
    · intro b blocked sound
      exact (Barrier.reset_moves b blocked).sound sound
    · intro b names
      rw [Barrier.resetIncidents, List.foldl_append, Barrier.tally_hitIf]
      rfl

theorem Booked.run (booked : r.Booked h) (ops : List (Operation Name)) : (r.run ops).Booked (h ++ r.history ops) := by
  induction ops generalizing r h with
  | nil => simpa using booked
  | cons op ops ih =>
    rw [history_cons, ← List.append_assoc]
    exact ih (booked.perform op)

end

/-- Barriers that nobody has waited at yet, each with options of its own. -/
structure Fresh (r : Run Name) : Prop where
  new : ∀ place b, r.registry.barrier? place = some b → ∃ o, Barrier.new? o = some b
  waits : r.waits = []
  meter : r.meter = {}

private theorem Fresh.booked (fresh : r.Fresh) : r.Booked [] := by
  have absent : ∀ name, r.find? name = none := by
    intro name
    simp [find?, fresh.waits]
  refine { seen := by simp, housed := by simp [blockedAt, absent], tracked := ?_
           releases := by rw [fresh.meter]; rfl, breaks := by rw [fresh.meter]; rfl, gauge := by rw [fresh.meter]; rfl
           waits := by simp [waiting, arrival?, absent], told := by simp }
  intro place b found
  obtain ⟨o, made⟩ := fresh.new place b found
  obtain ⟨positive, rfl⟩ := Barrier.new?_eq_some made
  exact Tracked.new positive (by simp) (by simp [blockedAt, absent])

/-- The metrics of a run are what its history says. -/
structure Agrees (r : Run Name) (h : History Name) : Prop where
  /-- A barrier comes to its next generation when one is released or reset. -/
  generation : ∀ place b, r.registry.barrier? place = some b →
    b.status.generation = ((released h).filter (·.1 = place)).card + resets h place
  releases : r.meter.releases = (released h).card
  breaks : r.meter.breaks = (broken h).card
  /-- Nothing is broken by the reset of a generation that is empty or broken. -/
  spared : ∀ place b, r.registry.barrier? place = some b → b.status.waiting = 0 ∨ b.status.broken = true →
    (r.perform (.reset place)).meter.breaks = r.meter.breaks
  /-- No generation is both released and broken, -/
  apart : Disjoint (released h) (broken h)
  /-- and whoever finds a broken barrier was in a generation that counts as broken. -/
  told : ∀ place name g why, (place, .wait (.returned name g (.failed why))) ∈ h →
    why.fault.kind = .barrierBroken → (place, g) ∈ broken h
  gauge : r.meter.waiting = (waiting h).card
  /-- The waits of the gauge are the unfinished ones that have arrived. -/
  waits : ∀ name, name ∈ waiting h ↔ ∃ p, r.find? name = some p ∧ p.wait.arrival.isSome
  nonnegative : 0 ≤ r.meter.waiting
  idle : (∀ p ∈ r.waits, p.wait.arrival = none) → r.meter.waiting = 0

/-- A generation that is released is not broken. -/
private theorem Booked.apart (booked : r.Booked h) : Disjoint (released h) (broken h) := by
  apply Finset.disjoint_left.mpr
  rintro ⟨place, g⟩ freed failed
  obtain ⟨e, seen, rfl⟩ := seen_of_generation freed
  obtain ⟨b, there⟩ := lt_size_iff.mp (booked.seen e seen)
  have account := (booked.tracked there).account
  obtain ⟨tickets, settled⟩ := (account.released g).mp freed
  rw [account.broken failed] at settled
  cases settled

/-- The reset of a barrier at which nobody is blocked breaks nothing. -/
private theorem Booked.spared (booked : r.Booked h) (there : r.registry.barrier? place = some b)
    (spent : b.status.waiting = 0 ∨ b.status.broken = true) :
    (r.perform (.reset place)).meter.breaks = r.meter.breaks := by
  have empty : b.waiting = [] := by
    rcases spent with none | broken
    · exact List.eq_nil_of_length_eq_zero none
    · exact (booked.tracked there).sound.emptied broken
  have counts : b.reset.2 = {} := by simp [Barrier.reset, empty]
  rw [Run.perform, update_there there, counts, Meter.add_empty]

private theorem Booked.agrees (booked : r.Booked h) : r.Agrees h where
  generation := fun _ _ there => (booked.tracked there).generation
  releases := booked.releases
  breaks := booked.breaks
  spared := fun _ _ there spent => booked.spared there spent
  apart := booked.apart
  told := fun _ _ _ _ told kind => booked.told told kind
  gauge := booked.gauge
  waits := by
    intro name
    rw [booked.waits, arrival?]
    cases r.find? name <;> simp
  nonnegative := by
    rw [booked.gauge]
    exact Int.natCast_nonneg _
  idle := by
    intro none
    have empty : waiting h = ∅ := by
      apply Finset.eq_empty_of_forall_notMem
      intro name member
      have arrived := (booked.waits name).mp member
      cases found : r.find? name with
      | none => simp [arrival?, found] at arrived
      | some p => simp [arrival?, found, none p (List.mem_of_find?_eq_some found)] at arrived
    rw [booked.gauge, empty]
    rfl

/-- In every run over any barriers the metrics agree with what was seen of the barriers. -/
theorem metrics_agree_with_history {start : Run Name} (fresh : start.Fresh) (ops : List (Operation Name)) :
    (start.run ops).Agrees (start.history ops) :=
  (fresh.booked.run ops).agrees

/-- Two barriers of different kinds. -/
def twoBarriers : Run Nat :=
  { registry :=
      { options := ⟨2, .withdraw⟩
        entries :=
          #[(⟨"a", "b"⟩, { options := ⟨2, .breakGeneration⟩ }), (⟨"c", "d"⟩, { options := ⟨3, .withdraw⟩ })] } }

/-- The first barrier is released, and a party leaves its next generation, which is reset, then reset again while it is
    empty and once more while a party is blocked. Two parties of the second are due, after which it is aborted, reset
    and used again. A third barrier is made and aborted. -/
def manyHits : List (Operation Nat) :=
  [.create 0 0 none, .poll 0, .create 1 0 (some 5), .poll 1,
    .create 2 1 (some 3), .poll 2, .create 3 1 (some 3), .poll 3, .advance 3, .poll 2, .poll 3, .abort 1, .reset 1,
    .create 4 0 none, .poll 4, .drop 4, .reset 0, .reset 0, .create 5 0 none, .poll 5, .reset 0, .poll 0,
    .create 6 1 none, .poll 6, .getOrCreate ⟨"e", "f"⟩, .abort 2]

theorem metrics_agree_with_history_many_hits :
    twoBarriers.Fresh ∧ (twoBarriers.run manyHits).Agrees (twoBarriers.history manyHits) ∧
      (twoBarriers.run manyHits).meter = { created := 1, releases := 1, breaks := 4, waiting := 2 } := by
  have fresh : twoBarriers.Fresh := by
    refine ⟨?_, rfl, rfl⟩
    intro place b found
    match place with
    | 0 => exact ⟨⟨2, .breakGeneration⟩, by simpa [twoBarriers, barrier?, Barrier.new?] using found⟩
    | 1 => exact ⟨⟨3, .withdraw⟩, by simpa [twoBarriers, barrier?, Barrier.new?] using found⟩
    | _ + 2 => simp [twoBarriers, barrier?] at found
  exact ⟨fresh, metrics_agree_with_history fresh manyHits, by decide +kernel⟩

end Run
end Lockstep.Registry
