import Lockstep.Registry

/-!
# Runs of a registry

A registry, one clock, and the waits on any of its barriers that are not
finished.
-/
namespace Lockstep.Registry

inductive Operation (Name : Type) where
  | getOrCreate (key : PartitionKey)
  /-- Makes a wait that has not arrived, if no other has its name. -/
  | create (name : Name) (place : Place) (timeout : Option Nat)
  | poll (name : Name)
  | drop (name : Name)
  | advance (milliseconds : Nat)
  | abort (place : Place)
  | reset (place : Place)
  deriving DecidableEq, Repr

structure Pending (Name : Type) where
  name : Name
  place : Place
  wait : Barrier.Wait
  deriving DecidableEq, Repr

structure Run (Name : Type) where
  registry : Registry
  now : Nat := 0
  /-- In the order in which they were made. -/
  waits : List (Pending Name) := []
  results : List (Name × Barrier.Result) := []
  meter : Meter := {}
  deriving DecidableEq, Repr

namespace Run

variable {Name : Type} [DecidableEq Name]

def find? (r : Run Name) (name : Name) : Option (Pending Name) :=
  r.waits.find? (·.name = name)

def put (r : Run Name) (name : Name) (w : Barrier.Wait) : Run Name :=
  { r with waits := r.waits.map fun p => if p.name = name then { p with wait := w } else p }

def remove (r : Run Name) (name : Name) : Run Name :=
  { r with waits := r.waits.filter (·.name ≠ name) }

def update (r : Run Name) (place : Place) (f : Barrier → Barrier × Meter) : Run Name :=
  let (registry, meter) := r.registry.update place f
  { r with registry, meter := r.meter + meter }

def poll (r : Run Name) (name : Name) : Run Name :=
  match r.find? name with
  | none => r
  | some p =>
    match r.registry.barrier? p.place with
    | none => r
    | some b =>
      let (b, poll, meter) := b.poll r.now p.wait
      let r := { r with registry := r.registry.put p.place b, meter := r.meter + meter }
      match poll with
      | .pending w => r.put name w
      | .done result => { r.remove name with results := r.results ++ [(name, result)] }

def drop (r : Run Name) (name : Name) : Run Name :=
  match r.find? name with
  | none => r
  | some p => (r.remove name).update p.place (·.drop p.wait)

/-- Makes a wait, if none of that name is unfinished. -/
def create (r : Run Name) (name : Name) (place : Place) (timeout : Option Nat) : Run Name :=
  if (r.find? name).isSome then r else { r with waits := r.waits ++ [⟨name, place, { timeout }⟩] }

def perform (r : Run Name) : Operation Name → Run Name
  | .getOrCreate key =>
    let (registry, _, meter) := r.registry.getOrCreate key
    { r with registry, meter := r.meter + meter }
  | .create name place timeout => r.create name place timeout
  | .poll name => r.poll name
  | .drop name => r.drop name
  | .advance ms => { r with now := r.now + ms }
  | .abort place => r.update place Barrier.abort
  | .reset place => r.update place Barrier.reset

/-- Polls every unfinished wait once, in the order in which they were made. -/
def pollAll (r : Run Name) : Run Name :=
  (r.waits.map (·.name)).foldl poll r

def pollRounds (r : Run Name) : Nat → Run Name
  | 0 => r
  | rounds + 1 => r.pollAll.pollRounds rounds

/-- Polls all waits again and again until none finishes. -/
def settle (r : Run Name) : Run Name :=
  r.pollRounds (r.waits.length + 1)

end Run
end Lockstep.Registry
