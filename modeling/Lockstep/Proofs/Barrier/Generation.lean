import Lockstep.Proofs.Barrier.Moves
import Mathlib.Data.List.Forall2

namespace Lockstep.Barrier

variable {Name : Type}

/-- These tickets of a generation are the tickets of these parties, one by one. -/
def Aligned (blocked : Blocked Name) (g : Nat) (tickets : List Ticket) (names : List Name) : Prop :=
  List.Forall₂ (fun t name => ∃ a, blocked name = some a ∧ a.generation = g ∧ a.ticket = t) tickets names

namespace Aligned

variable {blocked blocked' : Blocked Name} {g : Nat} {tickets : List Ticket} {names : List Name}

private theorem of_same (aligned : Aligned blocked g tickets names)
    (same : ∀ name a, a.generation = g → blocked name = some a → blocked' name = some a) :
    Aligned blocked' g tickets names :=
  aligned.imp fun _ _ ⟨a, found, here, ticket⟩ => ⟨a, same _ a here found, here, ticket⟩

theorem arrival_of_mem (aligned : Aligned blocked g tickets names) {name : Name} (member : name ∈ names) :
    ∃ a, blocked name = some a ∧ a.generation = g ∧ a.ticket ∈ tickets := by
  induction aligned with
  | nil => cases member
  | cons head _ ih =>
    rcases List.mem_cons.mp member with rfl | later
    · obtain ⟨a, found, here, ticket⟩ := head
      exact ⟨a, found, here, by simp [ticket]⟩
    · obtain ⟨a, found, here, listed⟩ := ih later
      exact ⟨a, found, here, List.mem_cons_of_mem _ listed⟩

theorem nodup (aligned : Aligned blocked g tickets names) (distinct : tickets.Nodup) : names.Nodup := by
  induction aligned with
  | nil => exact .nil
  | cons head rest ih =>
    obtain ⟨fresh, distinct⟩ := List.nodup_cons.mp distinct
    refine List.nodup_cons.mpr ⟨fun member => ?_, ih distinct⟩
    obtain ⟨a, found, _, ticket⟩ := head
    obtain ⟨a', found', _, listed⟩ := arrival_of_mem rest member
    rw [found] at found'
    cases found'
    exact fresh (ticket ▸ listed)

theorem index (aligned : Aligned blocked g tickets names)
    (apart : ∀ {name name' a a'}, blocked name = some a → blocked name' = some a' → a.generation = a'.generation →
      a.ticket = a'.ticket → name = name')
    {name : Name} {a : Arrival} (found : blocked name = some a) (here : a.generation = g)
    (listed : a.ticket ∈ tickets) : ∃ i, names[i]? = some name ∧ tickets.idxOf? a.ticket = some i := by
  induction aligned with
  | nil => cases listed
  | @cons t other tickets names head _ ih =>
    by_cases first : t = a.ticket
    · obtain ⟨a', found', here', ticket⟩ := head
      have same : other = name := apart found' found (here'.trans here.symm) (ticket.trans first)
      exact ⟨0, by simp [same], by simp [List.idxOf?_cons, first]⟩
    · have later : a.ticket ∈ tickets := by
        rcases List.mem_cons.mp listed with equal | later
        · exact absurd equal.symm first
        · exact later
      obtain ⟨i, named, ticketed⟩ := ih later
      exact ⟨i + 1, by simpa using named, by simp [List.idxOf?_cons, first, ticketed]⟩

variable [DecidableEq Name]

private theorem add (aligned : Aligned blocked g tickets names) {name : Name} (absent : blocked name = none)
    {a : Arrival} (here : a.generation = g) :
    Aligned (Function.update blocked name (some a)) g (tickets ++ [a.ticket]) (names ++ [name]) := by
  refine List.rel_append ?_ (.cons ⟨a, Function.update_self .., here, rfl⟩ .nil)
  refine aligned.of_same fun other a' _ found => ?_
  have different : other ≠ name := by
    rintro rfl
    rw [absent] at found
    cases found
  rw [Function.update_of_ne different]
  exact found

private theorem erase (aligned : Aligned blocked g tickets names)
    (apart : ∀ {name name' a a'}, blocked name = some a → blocked name' = some a' → a.generation = a'.generation →
      a.ticket = a'.ticket → name = name')
    {name : Name} {a : Arrival} (found : blocked name = some a) (here : a.generation = g) :
    Aligned (Function.update blocked name none) g (tickets.filter (· ≠ a.ticket)) (names.filter (· ≠ name)) := by
  induction aligned with
  | nil => exact .nil
  | @cons t other tickets names head _ ih =>
    obtain ⟨a', found', here', ticket⟩ := head
    by_cases same : other = name
    · subst same
      rw [found] at found'
      cases found'
      simpa [ticket] using ih
    · have apart' : t ≠ a.ticket := fun equal =>
        same (apart found' found (here'.trans here.symm) (ticket.trans equal))
      rw [List.filter_cons_of_pos (by simpa using apart'), List.filter_cons_of_pos (by simpa using same)]
      exact .cons ⟨a', by rw [Function.update_of_ne same]; exact found', here', ticket⟩ ih

end Aligned

variable [DecidableEq Name]

/-- Nobody in the generation finished, and who is counted is who is present. -/
structure Unsettled (b : Barrier) (blocked : Blocked Name) (h : List (Event Name)) (g : Nat) : Prop where
  aligned : Aligned blocked g (if g = b.generation then b.waiting else []) (present g h)
  silent : ∀ name result, .returned name g result ∉ h

/-- Who finished in the generation found it broken, before arriving or while blocked. -/
def Failed (h : List (Event Name)) (g : Nat) : Prop :=
  ∀ name result, .returned name g result ∈ h →
    result = .failed (.brokenBefore g) ∨ result = .failed (.brokenDuring g)

/-- The last of these parties arrived and released the generation in one poll; nobody had finished before, and
    nobody arrived in it later. -/
def Release (n : Nat) (h : List (Event Name)) (g : Nat) (parties : List Name) : Prop :=
  ∃ before last after, h = before ++ .arrived last g :: .returned last g (.released (n - 1)) :: after ∧
    parties = present g before ++ [last] ∧ (∀ name result, .returned name g result ∉ before) ∧
    ∀ name, .arrived name g ∉ after

/-- The generation was released with these parties; each of them is told its place. -/
structure Freed (b : Barrier) (blocked : Blocked Name) (h : List (Event Name)) (g : Nat) (tickets : List Ticket)
    (parties : List Name) : Prop where
  release : Release b.options.parties h g parties
  length : parties.length = b.options.parties
  nodup : parties.Nodup
  told : ∀ name result, .returned name g result ∈ h → ∃ i, parties[i]? = some name ∧ result = .released i
  listed : ∀ name a, blocked name = some a → a.generation = g →
    ∃ i, parties[i]? = some name ∧ tickets.idxOf? a.ticket = some i

/-- What was shown of a generation fits its outcome. -/
def Story (b : Barrier) (blocked : Blocked Name) (h : List (Event Name)) (g : Nat) : Prop :=
  match b.outcome? g with
  | none => Unsettled b blocked h g
  | some .broken => Failed h g
  | some (.released tickets) => ∃ parties, Freed b blocked h g tickets parties

section
variable {b b' : Barrier} {blocked blocked' : Blocked Name} {h es : List (Event Name)} {g : Nat}

theorem Story.unsettled (story : Story b blocked h g) (unknown : b.outcome? g = none) : Unsettled b blocked h g := by
  simpa only [Story, unknown] using story

theorem Story.failed (story : Story b blocked h g) (broken : b.outcome? g = some .broken) : Failed h g := by
  simpa only [Story, broken] using story

theorem Story.freed (story : Story b blocked h g) {tickets : List Ticket}
    (released : b.outcome? g = some (.released tickets)) : ∃ parties, Freed b blocked h g tickets parties := by
  simpa only [Story, released] using story

/-- What does not concern the generation leaves its story as it is. -/
private theorem Unsettled.extend (story : Unsettled b blocked h g)
    (waiting : (if g = b'.generation then b'.waiting else []) = if g = b.generation then b.waiting else [])
    (present : es.foldl (Event.tally g) (present g h) = present g h)
    (silent : ∀ name result, .returned name g result ∉ es)
    (same : ∀ name a, a.generation = g → blocked name = some a → blocked' name = some a) :
    Unsettled b' blocked' (h ++ es) g where
  aligned := by
    rw [waiting, present_append, present]
    exact story.aligned.of_same same
  silent := fun name result member =>
    (List.mem_append.mp member).elim (story.silent name result) (silent name result)

omit [DecidableEq Name] in
private theorem Failed.extend (story : Failed h g)
    (broken : ∀ name result, .returned name g result ∈ es →
      result = .failed (.brokenBefore g) ∨ result = .failed (.brokenDuring g)) : Failed (h ++ es) g :=
  fun name result member => (List.mem_append.mp member).elim (story name result) (broken name result)

private theorem Freed.extend {tickets : List Ticket} {parties : List Name} (story : Freed b blocked h g tickets parties)
    (options : b'.options = b.options) (late : ∀ name, .arrived name g ∉ es)
    (told : ∀ name result, .returned name g result ∈ es → ∃ i, parties[i]? = some name ∧ result = .released i)
    (same : ∀ name a, a.generation = g → blocked' name = some a → blocked name = some a) :
    Freed b' blocked' (h ++ es) g tickets parties where
  release := by
    obtain ⟨before, last, after, split, named, silent, closed⟩ := story.release
    refine ⟨before, last, after ++ es, by simp [split, options], named, silent, fun name member => ?_⟩
    exact (List.mem_append.mp member).elim (closed name) (late name)
  length := by rw [options]; exact story.length
  nodup := story.nodup
  told := fun name result member =>
    (List.mem_append.mp member).elim (story.told name result) (told name result)
  listed := fun name a found here => story.listed name a (same name a here found) here

/-- A generation that a move does not touch keeps its story. -/
private theorem Story.untouched (story : Story b blocked h g) (options : b'.options = b.options)
    (outcome : b'.outcome? g = b.outcome? g)
    (waiting : (if g = b'.generation then b'.waiting else []) = if g = b.generation then b.waiting else [])
    (arrived : ∀ name, .arrived name g ∉ es) (left : ∀ name, .left name g ∉ es)
    (silent : ∀ name result, .returned name g result ∉ es)
    (same : ∀ name a, a.generation = g → (blocked' name = some a ↔ blocked name = some a)) :
    Story b' blocked' (h ++ es) g := by
  have present : ∀ names, es.foldl (Event.tally g) names = names := by
    clear story silent
    induction es with
    | nil => intro names; rfl
    | cons e es ih =>
      intro names
      have here : e.tally g names = names := by
        cases e with
        | arrived name g' =>
          have other : g' ≠ g := fun equal => arrived name (by simp [equal])
          simp [Event.tally, other]
        | left name g' =>
          have other : g' ≠ g := fun equal => left name (by simp [equal])
          simp [Event.tally, other]
        | returned name g' result => rfl
      rw [List.foldl_cons, here]
      exact ih (fun name member => arrived name (List.mem_cons_of_mem _ member))
        (fun name member => left name (List.mem_cons_of_mem _ member)) names
  unfold Story
  rw [outcome]
  cases known : b.outcome? g with
  | none =>
    exact (story.unsettled known).extend waiting (present _) silent fun name a here => (same name a here).mpr
  | some outcome =>
    cases outcome with
    | broken => exact (story.failed known).extend fun name result member => absurd member (silent name result)
    | released tickets =>
      obtain ⟨parties, freed⟩ := story.freed known
      exact ⟨parties, freed.extend options arrived (fun name result member => absurd member (silent name result))
        fun name a here => (same name a here).mp⟩

private theorem update_iff {name : Name} {new : Option Arrival}
    (here : ∀ a, a.generation = g → (new = some a ↔ blocked name = some a)) (other : Name) (a : Arrival)
    (generation : a.generation = g) : Function.update blocked name new other = some a ↔ blocked other = some a := by
  by_cases same : other = name
  · subst same
    rw [Function.update_self]
    exact here a generation
  · rw [Function.update_of_ne same]

private theorem update_none_iff {name : Name} {a : Arrival} (arrived : blocked name = some a)
    (different : ¬ g = a.generation) (other : Name) (a' : Arrival) (generation : a'.generation = g) :
    Function.update blocked name none other = some a' ↔ blocked other = some a' := by
  refine update_iff (fun a'' here => ?_) other a' generation
  rw [arrived]
  refine ⟨fun equal => by simp at equal, fun equal => ?_⟩
  cases equal
  exact absurd here.symm different

private theorem Story.join (sound : Sound b blocked) (unbroken : b.broken = false) {name : Name}
    (absent : blocked name = none) (deadline : Option Nat) (story : Story b blocked h g) :
    Story b.joined (Function.update blocked name (some ⟨b.generation, b.nextTicket, deadline⟩))
      (h ++ [.arrived name b.generation]) g := by
  by_cases current : g = b.generation
  · subst current
    have unknown : b.outcome? b.generation = none := (sound.outcome?_eq_none_iff _).mpr (.inr ⟨rfl, unbroken⟩)
    have before := story.unsettled unknown
    have aligned : Aligned blocked b.generation b.waiting (present b.generation h) := by simpa using before.aligned
    have unknown' : b.joined.outcome? b.generation = none := unknown
    simp only [Story, unknown']
    refine ⟨?_, ?_⟩
    · rw [present_append]
      simpa [Event.tally, joined] using aligned.add absent (a := ⟨b.generation, b.nextTicket, deadline⟩) rfl
    · simpa using before.silent
  · have other : ¬ b.generation = g := fun equal => current equal.symm
    refine story.untouched rfl rfl (by simp [joined, current]) ?_ ?_ ?_ (update_iff fun a here => ?_)
    · simp [current]
    · simp
    · simp
    · rw [absent]
      refine ⟨fun equal => ?_, fun none => by cases none⟩
      cases equal
      exact absurd here other

private theorem Story.release (sound : Sound b blocked) (unbroken : b.broken = false) {name : Name}
    (absent : blocked name = none) (last : b.waiting.length + 1 = b.options.parties) (story : Story b blocked h g) :
    Story b.released blocked
      (h ++ [.arrived name b.generation, .returned name b.generation (.released b.waiting.length)]) g := by
  have size : b.outcomes.size = b.generation := by simpa [unbroken] using sound.settled
  by_cases current : g = b.generation
  · subst current
    have unknown : b.outcome? b.generation = none := (sound.outcome?_eq_none_iff _).mpr (.inr ⟨rfl, unbroken⟩)
    have before := story.unsettled unknown
    have aligned : Aligned blocked b.generation b.waiting (present b.generation h) := by simpa using before.aligned
    have known := outcome?_released size
    have length := aligned.length_eq
    have fresh : name ∉ present b.generation h := by
      intro member
      obtain ⟨a, found, _⟩ := aligned.arrival_of_mem member
      rw [absent] at found
      cases found
    simp only [Story, known]
    refine ⟨present b.generation h ++ [name], ?_, ?_, ?_, ?_, ?_⟩
    · refine ⟨h, name, [], ?_, rfl, before.silent, by simp⟩
      have count : b.released.options.parties - 1 = b.waiting.length := by
        simp [released, Barrier.advance, ← last]
      rw [count]
    · simpa [released, Barrier.advance, ← length] using last
    · exact List.nodup_append.mpr ⟨aligned.nodup sound.nodup, by simp,
        fun one member other single => by rw [List.mem_singleton.mp single]; exact fun equal => fresh (equal ▸ member)⟩
    · intro other result member
      rcases List.mem_append.mp member with earlier | now
      · exact absurd earlier (before.silent other result)
      · refine ⟨b.waiting.length, ?_, ?_⟩
        · have same : other = name := by simp at now; exact now.1
          simp [same, length]
        · simp at now
          exact now.2
    · intro other a found here
      have listed := sound.counted unbroken found here
      obtain ⟨i, named, ticketed⟩ := aligned.index sound.apart found here listed
      have inside := (List.getElem?_eq_some_iff.mp named).1
      refine ⟨i, by rw [List.getElem?_append_left inside, named], ?_⟩
      simp only [List.idxOf?, List.findIdx?_append] at ticketed ⊢
      simp [ticketed]
  · have outcome : b.released.outcome? g = b.outcome? g := by
      have other : ¬ g = b.outcomes.size := by rw [size]; exact current
      simp [released, Barrier.advance, outcome?, Array.getElem?_push, other]
    have other : ¬ b.generation = g := fun equal => current equal.symm
    refine story.untouched rfl outcome ?_ ?_ ?_ ?_ fun _ _ _ => Iff.rfl
    · rw [if_neg current]
      exact ite_self _
    · simp [current]
    · simp
    · simp [current]

private theorem Story.refuse (sound : Sound b blocked) (broken : b.broken = true) {name : Name}
    (story : Story b blocked h g) :
    Story b blocked (h ++ [.returned name b.generation (.failed (.brokenBefore b.generation))]) g := by
  by_cases current : g = b.generation
  · subst current
    have known := sound.kept broken
    simp only [Story, known]
    refine (story.failed known).extend fun other result member => .inl ?_
    simp at member
    exact member.2
  · exact story.untouched rfl rfl rfl (by simp) (by simp) (by simp [current]) fun _ _ _ => Iff.rfl

/-- A wait of a settled generation is gone. -/
private theorem Story.settled {outcome : Outcome} (known : b.outcome? g = some outcome) {name : Name}
    (late : ∀ other, .arrived other g ∉ es)
    (told : ∀ other result, .returned other g result ∈ es →
      ∃ a, blocked other = some a ∧ a.generation = g ∧ result = outcome.result a)
    (story : Story b blocked h g) : Story b (Function.update blocked name none) (h ++ es) g := by
  simp only [Story, known]
  cases outcome with
  | broken =>
    refine (story.failed known).extend fun other result member => .inr ?_
    obtain ⟨a, _, here, rfl⟩ := told other result member
    simp [Outcome.result, here]
  | released tickets =>
    obtain ⟨parties, freed⟩ := story.freed known
    refine ⟨parties, freed.extend rfl late ?_ ?_⟩
    · intro other result member
      obtain ⟨a, found, here, rfl⟩ := told other result member
      obtain ⟨i, named, ticketed⟩ := freed.listed other a found here
      exact ⟨i, named, by simp [Outcome.result, ticketed]⟩
    · exact fun other a _ found => (blocked_of_update_none found).2

private theorem Story.conclude {name : Name} {a : Arrival} {outcome : Outcome} (arrived : blocked name = some a)
    (known : b.outcome? a.generation = some outcome) (story : Story b blocked h g) :
    Story b (Function.update blocked name none) (h ++ [.returned name a.generation (outcome.result a)]) g := by
  by_cases here : g = a.generation
  · subst here
    refine story.settled known (by simp) fun other result member => ?_
    simp at member
    exact ⟨a, by rw [member.1]; exact arrived, rfl, member.2⟩
  · exact story.untouched rfl rfl rfl (by simp) (by simp) (by simp [here]) (update_none_iff arrived here)

private theorem Story.leave (sound : Sound b blocked) {name : Name} {a : Arrival} (arrived : blocked name = some a)
    (past : b.generation ≠ a.generation ∨ b.broken = true) (story : Story b blocked h g) :
    Story b (Function.update blocked name none) (h ++ [.left name a.generation]) g := by
  by_cases here : g = a.generation
  · subst here
    cases known : b.outcome? a.generation with
    | some outcome => exact story.settled known (by simp) (by simp)
    | none =>
      have begun := sound.begun arrived
      rcases (sound.outcome?_eq_none_iff _).mp known with later | ⟨current, unbroken⟩
      · omega
      · rcases past with stale | broken
        · exact absurd current stale
        · rw [unbroken] at broken
          cases broken
  · exact story.untouched rfl rfl rfl (by simp) (by simp [here]) (by simp) (update_none_iff arrived here)

private theorem Story.withdraw (sound : Sound b blocked) (unbroken : b.broken = false) {name : Name} {a : Arrival}
    (arrived : blocked name = some a) (current : b.generation = a.generation) (story : Story b blocked h g) :
    Story (b.withdrawn a.ticket) (Function.update blocked name none) (h ++ [.left name a.generation]) g := by
  by_cases here : g = a.generation
  · subst here
    have unknown : b.outcome? a.generation = none := (sound.outcome?_eq_none_iff _).mpr (.inr ⟨current, unbroken⟩)
    have before := story.unsettled unknown
    have aligned : Aligned blocked a.generation b.waiting (present a.generation h) := by
      simpa [current] using before.aligned
    have unknown' : (b.withdrawn a.ticket).outcome? a.generation = none := unknown
    simp only [Story, unknown']
    refine ⟨?_, ?_⟩
    · rw [present_append]
      simpa [Event.tally, withdrawn, current] using aligned.erase sound.apart arrived rfl
    · simpa using before.silent
  · have other : ¬ g = b.generation := by rw [current]; exact here
    exact story.untouched rfl rfl (by simp [withdrawn, other]) (by simp) (by simp [here]) (by simp)
      (update_none_iff arrived here)

private theorem Story.abort (sound : Sound b blocked) (unbroken : b.broken = false) (story : Story b blocked h g) :
    Story b.abort.1 blocked (h ++ []) g := by
  by_cases current : g = b.generation
  · subst current
    have unknown : b.outcome? b.generation = none := (sound.outcome?_eq_none_iff _).mpr (.inr ⟨rfl, unbroken⟩)
    simp only [Story, outcome?_abort sound unbroken]
    intro name result member
    rw [List.append_nil] at member
    exact absurd member ((story.unsettled unknown).silent name result)
  · have size : b.outcomes.size = b.generation := by simpa [unbroken] using sound.settled
    have outcome : b.abort.1.outcome? g = b.outcome? g := by
      have other : ¬ g = b.outcomes.size := by rw [size]; exact current
      simp [Barrier.abort, unbroken, outcome?, Array.getElem?_push, other]
    refine story.untouched ?_ outcome ?_ (by simp) (by simp) (by simp) fun _ _ _ => Iff.rfl
    · simp [Barrier.abort, unbroken]
    · simp [Barrier.abort, unbroken, current]

private theorem Story.advance (sound : Sound b blocked) (broken : b.broken = true) (story : Story b blocked h g) :
    Story b.advance blocked (h ++ []) g := by
  refine story.untouched rfl rfl ?_ (by simp) (by simp) (by simp) fun _ _ _ => Iff.rfl
  rw [sound.emptied broken, ite_self]
  exact ite_self _

/-- No move spoils the story of a generation. -/
private theorem Story.move (sound : Sound b blocked) (story : Story b blocked h g) (m : Move b blocked es b' blocked') :
    Story b' blocked' (h ++ es) g := by
  cases m with
  | join deadline unbroken absent room => exact story.join sound unbroken absent deadline
  | release unbroken absent last => exact story.release sound unbroken absent last
  | refuse broken => exact story.refuse sound broken
  | conclude arrived known => exact story.conclude arrived known
  | leave arrived past => exact story.leave sound arrived past
  | withdraw unbroken arrived current => exact story.withdraw sound unbroken arrived current
  | abort unbroken => exact story.abort sound unbroken
  | advance broken => exact story.advance sound broken

theorem Story.moves (sound : Sound b blocked) (story : Story b blocked h g) (m : Moves b blocked es b' blocked') :
    Story b' blocked' (h ++ es) g := by
  induction m generalizing h with
  | none => simpa using story
  | more first _ ih =>
    rw [← List.append_assoc]
    exact ih (sound.move first) (story.move sound first)

end

end Lockstep.Barrier
