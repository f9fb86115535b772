import Lockstep.Proofs.Barrier.Rest

/-!
# Who is counted

The barrier keeps tickets only, and the waits keep theirs. In each run the two
fit: the tickets kept are those of the waits blocked in the current generation,
each once and in order. Once no poll finishes a wait any more, nobody else is
blocked, so no party sleeps through the end of its generation.
-/
namespace Lockstep.Barrier

variable {Name : Type} [DecidableEq Name]

namespace Run

/-- The arrivals of the waits that are blocked. -/
def arrivals (r : Run Name) : List Arrival :=
  r.waits.filterMap (·.2.arrival)

/-- The tickets of the waits that are blocked in the generation. -/
def tickets (r : Run Name) (g : Nat) : List Ticket :=
  (r.arrivals.filter (·.generation = g)).map (·.ticket)

/-- What the barrier keeps fits the waits on it. -/
structure Fitting (r : Run Name) : Prop where
  below_parties : r.barrier.status.waiting < r.barrier.status.parties
  sorted : r.barrier.waiting.Pairwise (· < ·)
  below_next : ∀ t ∈ r.barrier.waiting, t < r.barrier.nextTicket
  emptied : r.barrier.broken = true → r.barrier.waiting = []
  unsettled : r.barrier.outcome? r.barrier.generation = none ↔ r.barrier.broken = false
  tickets : r.barrier.broken = false → r.barrier.waiting.Perm (r.tickets r.barrier.generation)

/-- The waits that are blocked are those that the barrier counts. -/
structure Exact (r : Run Name) : Prop where
  current : ∀ a ∈ r.arrivals, a.generation = r.barrier.generation
  tickets : r.barrier.waiting.Perm (r.arrivals.map (·.ticket))
  number : r.barrier.status.waiting = r.arrivals.length

variable {r : Run Name}

private theorem Distinct.mem_arrivals (distinct : r.Distinct) (a : Arrival) :
    a ∈ r.arrivals ↔ ∃ name, r.blocked name = some a := by
  simp only [arrivals, List.mem_filterMap]
  constructor
  · rintro ⟨⟨name, w⟩, member, arrived⟩
    exact ⟨name, by simpa [blocked, distinct.find?_of_mem member] using arrived⟩
  · rintro ⟨name, blocked⟩
    obtain ⟨w, found, arrived⟩ := Option.bind_eq_some_iff.mp blocked
    exact ⟨(name, w), mem_of_find? found, arrived⟩

private theorem Valid.tickets_nodup (valid : r.Valid) (g : Nat) : (r.tickets g).Nodup := by
  have apart : r.arrivals.Pairwise fun a a' => a.generation = a'.generation → a.ticket ≠ a'.ticket := by
    refine List.pairwise_filterMap.mpr ((List.pairwise_map.mp valid.distinct).imp_of_mem ?_)
    intro e e' member member' different a arrived a' arrived' generation ticket
    have blocked : r.blocked e.1 = some a := by simp [blocked, valid.distinct.find?_of_mem member, arrived]
    have blocked' : r.blocked e'.1 = some a' := by simp [Run.blocked, valid.distinct.find?_of_mem member', arrived']
    exact different (valid.sound.apart blocked blocked' generation ticket)
  refine List.pairwise_map.mpr ((apart.filter _).imp_of_mem fun {a a'} member member' apart => ?_)
  have here : a.generation = g := by simpa using (List.mem_filter.mp member).2
  have here' : a'.generation = g := by simpa using (List.mem_filter.mp member').2
  exact apart (here.trans here'.symm)

private theorem Valid.mem_waiting_iff (valid : r.Valid) (unbroken : r.barrier.broken = false) (t : Ticket) :
    t ∈ r.barrier.waiting ↔ t ∈ r.tickets r.barrier.generation := by
  simp only [Run.tickets, List.mem_map, List.mem_filter, decide_eq_true_eq, valid.distinct.mem_arrivals]
  constructor
  · intro counted
    obtain ⟨name, a, blocked, current, ticket⟩ := valid.sound.owned t counted
    exact ⟨a, ⟨⟨name, blocked⟩, current⟩, ticket⟩
  · rintro ⟨a, ⟨⟨name, blocked⟩, current⟩, rfl⟩
    exact valid.sound.counted unbroken blocked current

private theorem Valid.fitting (valid : r.Valid) : r.Fitting where
  below_parties := valid.sound.below_parties
  sorted := valid.sound.sorted
  below_next := valid.sound.below_next
  emptied := valid.sound.emptied
  unsettled := by simp [valid.sound.outcome?_eq_none_iff]
  tickets := fun unbroken =>
    (List.perm_ext_iff_of_nodup valid.sound.nodup (valid.tickets_nodup _)).mpr (valid.mem_waiting_iff unbroken)

private theorem Valid.exact_of_atRest (valid : r.Valid) (rest : r.AtRest) : r.Exact := by
  have unsettled : ∀ a ∈ r.arrivals, a.generation = r.barrier.generation ∧ r.barrier.broken = false := by
    intro a member
    obtain ⟨name, blocked⟩ := (valid.distinct.mem_arrivals a).mp member
    have unknown := (valid.distinct.atRest_iff.mp rest name a blocked).1
    obtain ⟨current, unbroken⟩ := valid.sound.current_of_unknown blocked unknown
    exact ⟨current.symm, unbroken⟩
  have all : r.tickets r.barrier.generation = r.arrivals.map (·.ticket) := by
    rw [Run.tickets, List.filter_eq_self.mpr fun a member => by simp [(unsettled a member).1]]
  have tickets : r.barrier.waiting.Perm (r.arrivals.map (·.ticket)) := by
    cases broken : r.barrier.broken with
    | false => exact all ▸ valid.fitting.tickets broken
    | true =>
      -- A blocked wait would be one of an unbroken generation, so there is none.
      have nobody : r.arrivals = [] := by
        refine List.eq_nil_iff_forall_not_mem.mpr fun a member => ?_
        rw [(unsettled a member).2] at broken
        cases broken
      rw [valid.sound.emptied broken, nobody]
      exact .refl _
  exact ⟨fun a member => (unsettled a member).1, tickets, by simpa [status] using tickets.length_eq⟩

end Run

/-- In each run the barrier counts fewer waits than it takes, by the tickets of those that are blocked in its
    unbroken generation. Two rounds of polls bring it to rest, and at rest it counts all who are blocked. -/
theorem blocked_are_counted {o : Options} {b : Barrier} (made : new? o = some b) (ops : List (Operation Name)) :
    let r := ({ barrier := b } : Run Name).run ops
    r.Fitting ∧
    (∀ first second, r.Round first → (r.polls first).Round second → ((r.polls first).polls second).AtRest) ∧
    ∀ names, (r.polls names).AtRest → (r.polls names).Exact := by
  intro r
  have valid : r.Valid := (Run.Valid.new made).run ops
  exact ⟨valid.fitting, fun _ _ => valid.atRest_of_rounds, fun names => (valid.polls names).exact_of_atRest⟩

/-- The second of two blocked parties is due: the first one learns so in the second round only. -/
def overdue : List (Operation (Fin 2)) :=
  [.create 0 none, .create 1 (some 5), .poll 0, .poll 1, .advance 5]

theorem blocked_are_counted_overdue :
    let r := Run.run { barrier := { options := ⟨3, .withdraw⟩ } } overdue
    new? ⟨3, .withdraw⟩ = some { options := ⟨3, .withdraw⟩ } ∧ r.Fitting ∧ r.Round [0, 1] ∧
      (r.polls [0, 1]).Round [0] ∧ (r.polls [0, 1, 0]).Exact := by
  obtain ⟨fitting, rounds, exactly⟩ := blocked_are_counted (o := ⟨3, .withdraw⟩) rfl overdue
  have first : (Run.run { barrier := { options := ⟨3, .withdraw⟩ } } overdue).Round [0, 1] := by
    unfold Run.Round
    decide
  have second : ((Run.run { barrier := { options := ⟨3, .withdraw⟩ } } overdue).polls [0, 1]).Round [0] := by
    unfold Run.Round
    decide
  exact ⟨rfl, fitting, first, second, exactly [0, 1, 0] (rounds [0, 1] [0] first second)⟩

end Lockstep.Barrier
