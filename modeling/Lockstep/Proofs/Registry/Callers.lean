import Lockstep.Proofs.Registry.Lookup

/-!
# Many callers of one registry

Any number of callers ask one registry for barriers at the same time. A call that
creates looks its key up under the shared lock first. If the key is missing, the
call comes back under the exclusive lock, looks again, and enters the key if it is
still missing. Between the two, other callers may enter whatever they like.

Whatever the order in which these sections are carried out, each key gets one
barrier, which every call for that key returns.
-/
namespace Lockstep.Registry

/-- A call for the barrier of a key that has not returned. -/
structure Call where
  key : PartitionKey
  /-- The key was missing when it was looked up under the shared lock. -/
  missed : Bool := false
  deriving DecidableEq, Repr

/-- What callers do without being interrupted. -/
inductive Section (Name : Type) where
  /-- A call that creates begins, if no call under way has its name. -/
  | call (name : Name) (key : PartitionKey)
  /-- The call looks its key up under the shared lock. -/
  | lookup (name : Name)
  /-- The call, having missed, looks again under the exclusive lock and enters its key if need be. -/
  | enter (name : Name)
  /-- A call that only looks a key up. -/
  | get (name : Name) (key : PartitionKey)
  /-- A call that counts the keys. -/
  | count (name : Name)
  deriving DecidableEq, Repr

/-- What callers see, and which barriers are created. -/
inductive Told (Name : Type) where
  | created (key : PartitionKey)
  /-- A call for the barrier of a key returned; one that does not create may come back with nothing. -/
  | returned (name : Name) (key : PartitionKey) (place : Option Place)
  /-- A call ended without returning, because there are no barriers without parties. -/
  | failed (name : Name) (key : PartitionKey)
  | counted (name : Name) (keys : Nat)
  deriving DecidableEq, Repr

def Told.created? {Name : Type} : Told Name → Option PartitionKey
  | .created key => some key
  | _ => none

/-- The keys whose barriers were created, in order. -/
def createdKeys {Name : Type} (told : List (Told Name)) : List PartitionKey :=
  told.filterMap Told.created?

private theorem createdKeys_append {Name : Type} (told es : List (Told Name)) :
    createdKeys (told ++ es) = createdKeys told ++ createdKeys es :=
  List.filterMap_append

structure Callers (Name : Type) where
  registry : Registry
  meter : Meter := {}
  calls : Name → Option Call := fun _ => none
  told : List (Told Name) := []

namespace Callers

variable {Name : Type} [DecidableEq Name]

/-- A registry that nobody has asked for anything yet. -/
def start (options : Barrier.Options) : Callers Name :=
  { registry := { options } }

/-- A call ends, and this is what it and its section showed. -/
def finish (c : Callers Name) (name : Name) (told : List (Told Name)) : Callers Name :=
  { c with calls := Function.update c.calls name none, told := c.told ++ told }

def lookup (c : Callers Name) (name : Name) (call : Call) : Callers Name :=
  match c.registry.find? call.key with
  | some place => c.finish name [.returned name call.key place]
  | none => { c with calls := Function.update c.calls name (some { call with missed := true }) }

/-- What a call shows that looked again and perhaps created the barrier. -/
def entered (known : Option Place) (name : Name) (key : PartitionKey) : Option Place → List (Told Name)
  | none => [.failed name key]
  | some place => (if known.isNone then [.created key] else []) ++ [.returned name key place]

def enter (c : Callers Name) (name : Name) (key : PartitionKey) : Callers Name :=
  let (registry, place, meter) := c.registry.getOrCreate key
  { c with registry, meter := c.meter + meter }.finish name (entered (c.registry.find? key) name key place)

/-- Carries out one section; one that is not possible does nothing. -/
def perform (c : Callers Name) : Section Name → Callers Name
  | .call name key =>
    if (c.calls name).isSome then c else { c with calls := Function.update c.calls name (some { key }) }
  | .lookup name =>
    match c.calls name with
    | some ⟨key, false⟩ => c.lookup name { key }
    | _ => c
  | .enter name =>
    match c.calls name with
    | some ⟨key, true⟩ => c.enter name key
    | _ => c
  | .get name key => { c with told := c.told ++ [.returned name key (c.registry.find? key)] }
  | .count name => { c with told := c.told ++ [.counted name c.registry.size] }

def run (c : Callers Name) (sections : List (Section Name)) : Callers Name :=
  sections.foldl perform c

@[simp] theorem run_nil (c : Callers Name) : c.run [] = c := rfl

@[simp] theorem run_cons (c : Callers Name) (s : Section Name) (sections : List (Section Name)) :
    c.run (s :: sections) = (c.perform s).run sections := rfl

end Callers

/-- What a section shows, and what it makes of the registry and adds to the meter. -/
inductive Seen {Name : Type} (r : Registry) : List (Told Name) → Registry → Meter → Prop
  | silent : Seen r [] r {}
  /-- A key is looked up. -/
  | looked (name : Name) (key : PartitionKey) : Seen r [.returned name key (r.find? key)] r {}
  | counted (name : Name) : Seen r [.counted name r.size] r {}
  | created (name : Name) (key : PartitionKey) : r.find? key = none → 0 < r.options.parties →
      Seen r [.created key, .returned name key (some r.size)]
        { r with entries := r.entries.push (key, { options := r.options }) } { created := 1 }
  | failed (name : Name) (key : PartitionKey) : r.find? key = none → r.options.parties = 0 →
      Seen r [.failed name key] r { created := 1 }

namespace Callers

variable {Name : Type} [DecidableEq Name] {c : Callers Name} {options : Barrier.Options}

/-- What a section does, told by what it shows. -/
def Does (c : Callers Name) (es : List (Told Name)) (m : Meter) (c' : Callers Name) : Prop :=
  Seen c.registry es c'.registry m ∧ c'.told = c.told ++ es ∧ c'.meter = c.meter + m

omit [DecidableEq Name] in
private theorem does_silent {c c' : Callers Name} (registry : c'.registry = c.registry) (told : c'.told = c.told)
    (meter : c'.meter = c.meter) : ∃ es m, c.Does es m c' := by
  refine ⟨[], {}, ?_, by simp [told], by rw [meter, Meter.add_empty]⟩
  rw [registry]
  exact .silent

private theorem enter_does (c : Callers Name) (name : Name) (key : PartitionKey) :
    ∃ es m, c.Does es m (c.enter name key) := by
  rcases c.registry.getOrCreate_cases key with ⟨place, found, got⟩ | ⟨new, positive, got⟩ | ⟨new, none, got⟩
  · have looked := Seen.looked (r := c.registry) name key
    rw [found] at looked
    exact ⟨_, _, by simpa [enter, finish, got] using looked, by simp [enter, finish, entered, got, found],
      by simp [enter, finish, got]⟩
  · have created := Seen.created name key new positive
    exact ⟨_, _, by simpa [enter, finish, got] using created, by simp [enter, finish, entered, got, new],
      by simp [enter, finish, got]⟩
  · have failed := Seen.failed name key new none
    exact ⟨_, _, by simpa [enter, finish, got] using failed, by simp [enter, finish, entered, got],
      by simp [enter, finish, got]⟩

private theorem lookup_does (c : Callers Name) (name : Name) (call : Call) :
    ∃ es m, c.Does es m (c.lookup name call) := by
  unfold lookup
  cases found : c.registry.find? call.key with
  | none => exact does_silent rfl rfl rfl
  | some place =>
    have looked := Seen.looked (r := c.registry) name call.key
    rw [found] at looked
    exact ⟨_, _, looked, rfl, (Meter.add_empty _).symm⟩

private theorem perform_does (c : Callers Name) (s : Section Name) : ∃ es m, c.Does es m (c.perform s) := by
  cases s with
  | call name key =>
    simp only [perform]
    split
    · exact does_silent rfl rfl rfl
    · exact does_silent rfl rfl rfl
  | lookup name =>
    simp only [perform]
    split
    · exact c.lookup_does name _
    · exact does_silent rfl rfl rfl
  | enter name =>
    simp only [perform]
    split
    · exact c.enter_does name _
    · exact does_silent rfl rfl rfl
  | get name key => exact ⟨_, _, .looked name key, rfl, (Meter.add_empty _).symm⟩
  | count name => exact ⟨_, _, .counted name, rfl, (Meter.add_empty _).symm⟩

end Callers

section
variable {Name : Type} {options : Barrier.Options} {r r' : Registry} {told es : List (Told Name)} {n : Nat} {m : Meter}

/-- Every count tells how many barriers had been created. -/
def Counts (told : List (Told Name)) : Prop :=
  ∀ name k before after, told = before ++ .counted name k :: after → k = (createdKeys before).length

private theorem Counts.snoc (counts : Counts told) {e : Told Name}
    (last : ∀ name k, e = .counted name k → k = (createdKeys told).length) : Counts (told ++ [e]) := by
  intro name k before after split
  rcases List.eq_nil_or_concat after with rfl | ⟨earlier, e', rfl⟩
  · obtain ⟨rfl, same⟩ := List.append_inj' split rfl
    exact last name k (List.singleton_inj.mp same)
  · rw [List.concat_eq_append, ← List.cons_append, ← List.append_assoc] at split
    exact counts name k before earlier (List.append_inj' split rfl).1

/-- What was shown, and how many barriers were counted as created, fits the registry. -/
structure Settled (options : Barrier.Options) (r : Registry) (told : List (Told Name)) (n : Nat) : Prop where
  same : r.options = options
  distinct : r.Distinct
  /-- The keys are those whose barriers were created, in that order. -/
  keys : createdKeys told = r.entries.toList.map (·.1)
  uniform : ∀ (place : Place) (key : PartitionKey) (b : Barrier), r.entries[place]? = some (key, b) → b.options = options
  returned : ∀ name key place, .returned name key (some place) ∈ told → r.find? key = some place
  counts : Counts told
  failed : ∀ name key, .failed name key ∈ told → options.parties = 0
  metered : 0 < options.parties → n = r.size

private theorem Settled.start (options : Barrier.Options) : @Settled Name options { options } [] 0 where
  same := rfl
  distinct := by simp [Distinct]
  keys := rfl
  uniform := by simp
  returned := by simp
  counts := by simp [Counts]
  failed := by simp
  metered := fun _ => rfl

private theorem Settled.size (settled : Settled options r told n) : (createdKeys told).length = r.size := by
  rw [settled.keys, List.length_map]
  rfl

private theorem Settled.nodup (settled : Settled options r told n) : (createdKeys told).Nodup := by
  rw [settled.keys, List.Nodup, List.pairwise_iff_getElem]
  intro i j inside inside' before same
  simp only [List.length_map, Array.length_toList] at inside inside'
  simp only [List.getElem_map, Array.getElem_toList] at same
  have here : r.find? r.entries[i].1 = some i := settled.distinct (Array.getElem?_eq_getElem inside)
  have there : r.find? r.entries[j].1 = some j := settled.distinct (Array.getElem?_eq_getElem inside')
  rw [same, there, Option.some.injEq] at here
  omega

/-- Whatever a section shows fits what it makes of the registry. -/
private theorem Settled.seen (settled : Settled options r told n) (seen : Seen r es r' m) :
    Settled options r' (told ++ es) (n + m.created) := by
  cases seen with
  | silent => simpa using settled
  | looked name key =>
    refine { settled with
      keys := by rw [createdKeys_append, settled.keys]; exact List.append_nil _
      returned := fun name' key' place member => ?_
      counts := settled.counts.snoc (by simp)
      failed := fun name' key' member => settled.failed name' key' (by simpa using member) }
    rcases List.mem_append.mp member with earlier | now
    · exact settled.returned name' key' place earlier
    · simp only [List.mem_singleton, Told.returned.injEq] at now
      rw [now.2.1, ← now.2.2]
  | counted name =>
    exact { settled with
      keys := by rw [createdKeys_append, settled.keys]; exact List.append_nil _
      returned := fun name' key' place member => settled.returned name' key' place (by simpa using member)
      counts := settled.counts.snoc (by simp [settled.size])
      failed := fun name' key' member => settled.failed name' key' (by simpa using member) }
  | failed name key new none =>
    exact { settled with
      keys := by rw [createdKeys_append, settled.keys]; exact List.append_nil _
      returned := fun name' key' place member => settled.returned name' key' place (by simpa using member)
      counts := settled.counts.snoc (by simp)
      failed := fun _ _ _ => by rw [← settled.same]; exact none
      metered := fun positive => by rw [← settled.same] at positive; omega }
  | created name key new positive =>
    have more := push_extends new positive { options := r.options }
    have entered : find? { r with entries := r.entries.push (key, { options := r.options }) } key = some r.size := by
      simp [find?_push, new, Registry.size]
    refine ⟨settled.same, more.distinct settled.distinct, ?_, fun place key' b entry => ?_,
      fun name' key' place member => ?_, ?_, fun name' key' member => settled.failed name' key' (by simpa using member),
      fun positive => ?_⟩
    · rw [createdKeys_append, settled.keys]
      simp [createdKeys, Told.created?]
    · simp only [Array.getElem?_push] at entry
      split at entry
      · cases entry
        exact settled.same
      · exact settled.uniform place key' b entry
    · rcases List.mem_append.mp member with earlier | now
      · exact more.kept (settled.returned name' key' place earlier)
      · simp only [List.mem_cons, reduceCtorEq, Told.returned.injEq, Option.some.injEq, false_or, List.not_mem_nil,
          or_false] at now
        rw [now.2.1, now.2.2]
        exact entered
    · have first := settled.counts.snoc (e := .created key) (by simp)
      simpa using first.snoc (e := .returned name key (some r.size)) (by simp)
    · rw [settled.metered positive]
      simp [Registry.size]

private theorem Seen.extends (seen : Seen r es r' m) : r.Extends r' := by
  cases seen with
  | created name key new positive => exact push_extends new positive _
  | _ => exact .refl r

end

namespace Callers

variable {Name : Type} [DecidableEq Name] {c : Callers Name} {options : Barrier.Options}

/-- A registry in use by callers, and what they saw. -/
def Fits (options : Barrier.Options) (c : Callers Name) : Prop :=
  Settled options c.registry c.told c.meter.created

theorem Fits.run (fits : c.Fits options) (sections : List (Section Name)) :
    (c.run sections).Fits options ∧ c.registry.Extends (c.run sections).registry := by
  induction sections generalizing c with
  | nil => exact ⟨fits, .refl _⟩
  | cons s sections ih =>
    obtain ⟨es, m, seen, told, meter⟩ := c.perform_does s
    have next : (c.perform s).Fits options := by
      have settled := Settled.seen fits seen
      rw [Fits, told, meter]
      exact settled
    obtain ⟨final, more⟩ := ih next
    exact ⟨final, seen.extends.trans more⟩

/-- Where barriers can be made, a call that is under way returns after two sections of its own at most. -/
private theorem returns (positive : 0 < c.registry.options.parties) {name : Name} {call : Call}
    (pending : c.calls name = some call) :
    ∃ place, .returned name call.key (some place) ∈ ((c.perform (.lookup name)).perform (.enter name)).told := by
  have entering : ∀ {c : Callers Name} {key : PartitionKey}, 0 < c.registry.options.parties →
      c.calls name = some ⟨key, true⟩ → ∃ place, .returned name key (some place) ∈ (c.perform (.enter name)).told := by
    intro c key positive pending
    simp only [perform, pending]
    rcases c.registry.getOrCreate_cases key with ⟨place, _, got⟩ | ⟨_, _, got⟩ | ⟨_, none, _⟩
    · exact ⟨place, by simp [enter, finish, entered, got]⟩
    · exact ⟨c.registry.size, by simp [enter, finish, entered, got]⟩
    · omega
  obtain ⟨key, missed⟩ := call
  cases missed with
  | true =>
    have waits : c.perform (.lookup name) = c := by simp [perform, pending]
    rw [waits]
    exact entering positive pending
  | false =>
    cases found : c.registry.find? key with
    | some place =>
      have ended : (c.perform (.lookup name)) = c.finish name [.returned name key place] := by
        simp [perform, pending, lookup, found]
      refine ⟨place, ?_⟩
      rw [ended]
      simp [perform, finish]
    | none =>
      have missed : (c.perform (.lookup name)) =
          { c with calls := Function.update c.calls name (some ⟨key, true⟩) } := by
        simp [perform, pending, lookup, found]
      rw [missed]
      exact entering positive (by simp)

/-- Whatever the order in which callers do their sections: every call for a key that returns a barrier returns the one
    in the place of that key, made with the options of the registry, so calls return the same barrier just when their
    keys are equal; a key never loses its place; and the keys are those whose barriers were created, once each. Unless
    barriers have no parties, so that none can be made, the meter counts as many, and every call returns. -/
theorem single_winner (options : Barrier.Options) (sections : List (Section Name)) :
    let c := (start options : Callers Name).run sections
    (∀ name key place, .returned name key (some place) ∈ c.told →
      c.registry.find? key = some place ∧ ∃ b, c.registry.barrier? place = some b ∧ b.options = options) ∧
    (∀ name name' key key' place place', .returned name key (some place) ∈ c.told →
      .returned name' key' (some place') ∈ c.told → (place = place' ↔ key = key')) ∧
    (∀ key place more, c.registry.find? key = some place → (c.run more).registry.find? key = some place) ∧
    (createdKeys c.told).Nodup ∧ (createdKeys c.told).length = c.registry.size ∧
    (∀ name k before after, c.told = before ++ .counted name k :: after → k = (createdKeys before).length) ∧
    (0 < options.parties → c.meter.created = c.registry.size ∧ (∀ name key, .failed name key ∉ c.told) ∧
      ∀ name call, c.calls name = some call →
        ∃ place, .returned name call.key (some place) ∈ ((c.perform (.lookup name)).perform (.enter name)).told) := by
  intro c
  obtain ⟨settled, _⟩ := Fits.run (c := start options) (Settled.start options) sections
  have place : ∀ name key place, .returned name key (some place) ∈ c.told → c.registry.find? key = some place :=
    settled.returned
  refine ⟨fun name key p member => ⟨place name key p member, ?_⟩, fun name name' key key' p p' here there => ?_,
    fun key p more found => (Fits.run settled more).2.kept found, settled.nodup, settled.size, settled.counts,
    fun positive => ⟨settled.metered positive, fun name key member => ?_, fun name call pending => ?_⟩⟩
  · obtain ⟨b, entry⟩ := entry_of_find? (place name key p member)
    exact ⟨b, by simp [barrier?, entry], settled.uniform p key b entry⟩
  · have found := place name key p here
    have found' := place name' key' p' there
    constructor
    · rintro rfl
      exact find?_inj found found'
    · rintro rfl
      rw [found, Option.some.injEq] at found'
      exact found'
  · have none := settled.failed name key member
    omega
  · exact returns (by rw [settled.same]; exact positive) pending

/-- Where barriers have no parties, a call ends without a barrier, and is counted all the same. -/
theorem created_without_parties :
    let c := (start ⟨0, .breakGeneration⟩ : Callers Nat).run [.call 0 ⟨"a", "b"⟩, .lookup 0, .enter 0]
    c.told = [.failed 0 ⟨"a", "b"⟩] ∧ c.registry.size = 0 ∧ c.meter.created = 1 := by
  decide +kernel

end Callers
end Lockstep.Registry
