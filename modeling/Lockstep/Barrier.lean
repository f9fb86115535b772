import Lockstep.AbandonPolicy
import Lockstep.Metric

/-!
# Cyclic barriers

A barrier blocks its parties until a fixed number of them has arrived, then
releases all of them together and starts its next generation. A generation can
be broken instead: by a timeout, by an abort, or by a party that goes away.

A generation is settled once, as released or as broken, and its outcome is kept:
a party that is polled late finds the outcome of its own generation, whatever
later generations have come to. Arrival indices follow from the parties present
at the release, so a party that withdrew leaves no gap.
-/
namespace Lockstep

namespace Barrier

/-- What is fixed when a barrier is made. -/
structure Options where
  /-- How many parties release a generation. -/
  parties : Nat
  policy : AbandonPolicy := .breakGeneration
  deriving DecidableEq, Repr

/-- Numbers the arrivals in a generation. -/
abbrev Ticket := Nat

/-- How a generation ended. -/
inductive Outcome where
  /-- Released with these parties, in the order of their arrival. -/
  | released (tickets : List Ticket)
  | broken
  deriving DecidableEq, Repr

structure Status where
  parties : Nat
  waiting : Nat
  broken : Bool
  generation : Nat
  deriving DecidableEq, Repr

end Barrier

structure Barrier where
  options : Barrier.Options
  /-- The parties blocked in the current generation, in the order of their arrival. -/
  waiting : List Barrier.Ticket := []
  nextTicket : Barrier.Ticket := 0
  generation : Nat := 0
  broken : Bool := false
  /-- The outcomes of the generations settled so far, from generation 0 on. -/
  outcomes : Array Barrier.Outcome := #[]
  deriving DecidableEq, Repr

namespace Barrier

/-- The text of the panic that a barrier without parties causes. -/
def noParties : String := "a barrier needs at least one party"

/-- A new barrier; without parties there is none. -/
def new? (options : Options) : Option Barrier :=
  if 0 < options.parties then some { options } else none

def status (b : Barrier) : Status where
  parties := b.options.parties
  waiting := b.waiting.length
  broken := b.broken
  generation := b.generation

/-- How the generation was settled, if it was. -/
def outcome? (b : Barrier) (generation : Nat) : Option Outcome :=
  b.outcomes[generation]?

/-! ### Settling a generation -/

/-- Opens the next generation. -/
def advance (b : Barrier) : Barrier :=
  { b with generation := b.generation + 1, waiting := [], nextTicket := 0, broken := false }

/-- Breaks the current generation, which counts when it was not broken yet. -/
def abort (b : Barrier) : Barrier × Meter :=
  if b.broken then (b, {})
  else ({ b with broken := true, waiting := [], outcomes := b.outcomes.push .broken }, { breaks := 1 })

/-- Opens the next generation; the parties still blocked in the current one fail. It counts as broken only if
    it held a party. -/
def reset (b : Barrier) : Barrier × Meter :=
  let (b, meter) := if b.waiting.isEmpty then (b, {}) else b.abort
  let b := if b.broken then b else { b with outcomes := b.outcomes.push .broken }
  (b.advance, meter)

/-! ### Waiting -/

/-- A party that is blocked. -/
structure Arrival where
  generation : Nat
  ticket : Ticket
  /-- When the party has waited long enough. -/
  deadline : Option Nat
  deriving DecidableEq, Repr

/-- A wait: it arrives when it is polled for the first time. -/
structure Wait where
  timeout : Option Nat := none
  arrival : Option Arrival := none
  deriving DecidableEq, Repr

inductive Failure where
  /-- The generation was broken when the party arrived. -/
  | brokenBefore (generation : Nat)
  /-- The generation was broken while the party was blocked. -/
  | brokenDuring (generation : Nat)
  /-- The generation was released without a party that had arrived in it. -/
  | missing (ticket : Ticket) (generation : Nat)
  deriving DecidableEq, Repr

inductive Result where
  /-- The party was released, as the one of that arrival index. -/
  | released (index : Nat)
  | failed (why : Failure)
  deriving DecidableEq, Repr

inductive Poll where
  | pending (wait : Wait)
  | done (result : Result)
  deriving DecidableEq, Repr

/-- What the outcome of its generation is to a party. -/
def Outcome.result (a : Arrival) : Outcome → Result
  | .released tickets =>
    match tickets.idxOf? a.ticket with
    | some index => .released index
    | none => .failed (.missing a.ticket a.generation)
  | .broken => .failed (.brokenDuring a.generation)

/-- Polls a blocked party: the outcome of its generation comes before its deadline. -/
def pollBlocked (b : Barrier) (now : Nat) (w : Wait) (a : Arrival) : Barrier × Poll × Meter :=
  match b.outcome? a.generation with
  | some outcome => (b, .done (outcome.result a), { waiting := -1 })
  | none =>
    if a.deadline.any (· ≤ now) then
      let (b, meter) := b.abort
      (b, .done (.failed (.brokenDuring a.generation)), meter + { waiting := -1 })
    else (b, .pending { w with arrival := some a }, {})

/-- A party arrives: the last one releases the generation, all others are blocked. -/
def arrive (b : Barrier) (now : Nat) (w : Wait) : Barrier × Poll × Meter :=
  if b.broken then (b, .done (.failed (.brokenBefore b.generation)), {})
  else
    let ticket := b.nextTicket
    let index := b.waiting.length
    let waiting := b.waiting ++ [ticket]
    if index + 1 = b.options.parties then
      ({ b with outcomes := b.outcomes.push (.released waiting) }.advance, .done (.released index), { releases := 1 })
    else
      let a : Arrival := ⟨b.generation, ticket, w.timeout.map (now + ·)⟩
      let (b, poll, meter) := { b with waiting, nextTicket := ticket + 1 }.pollBlocked now w a
      (b, poll, { waiting := 1 } + meter)

def poll (b : Barrier) (now : Nat) (w : Wait) : Barrier × Poll × Meter :=
  match w.arrival with
  | none => b.arrive now w
  | some a => b.pollBlocked now w a

/-- Applies the policy to a party that went away: it matters only while its generation is open. -/
def leave (b : Barrier) (a : Arrival) : Barrier × Meter :=
  if b.generation ≠ a.generation ∨ b.broken then (b, {})
  else match b.options.policy with
    | .breakGeneration => b.abort
    | .withdraw => ({ b with waiting := b.waiting.filter (· ≠ a.ticket) }, {})

/-- A wait that is not finished is given up; one that has not arrived leaves no trace. -/
def drop (b : Barrier) (w : Wait) : Barrier × Meter :=
  match w.arrival with
  | none => (b, {})
  | some a =>
    let (b, meter) := b.leave a
    (b, meter + { waiting := -1 })

/-! ### Faults -/

/-- The fault that a failed wait reports. -/
def Failure.fault : Failure → Fault
  | .brokenBefore g =>
    ⟨.barrierBroken, "Barrier is broken", some ("generation " ++ toString g ++ " was broken before this arrival"), []⟩
  | .brokenDuring g =>
    ⟨.barrierBroken, "Barrier is broken", some ("generation " ++ toString g ++ " was broken while waiting"), []⟩
  | .missing t g =>
    ⟨.unknown, "Released party is missing from its generation",
      some ("ticket " ++ toString t ++ " of generation " ++ toString g), []⟩

end Barrier
end Lockstep
