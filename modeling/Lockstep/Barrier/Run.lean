import Lockstep.Barrier

/-!
# Runs of one barrier

A barrier, a clock that moves only when it is told to, and the waits on the
barrier that are not finished. A run is a list of operations in any order.
-/
namespace Lockstep.Barrier

/-- What can be done to a barrier and the waits on it. -/
inductive Operation (Name : Type) where
  /-- Makes a wait that has not arrived, if no other has its name. -/
  | create (name : Name) (timeout : Option Nat)
  | poll (name : Name)
  | drop (name : Name)
  | advance (milliseconds : Nat)
  | abort
  | reset
  deriving DecidableEq, Repr

structure Run (Name : Type) where
  barrier : Barrier
  now : Nat := 0
  /-- The waits that are not finished, in the order in which they were made. -/
  waits : List (Name × Wait) := []
  /-- The results of finished waits, in the order in which they finished. -/
  results : List (Name × Result) := []
  meter : Meter := {}
  deriving DecidableEq, Repr

namespace Run

variable {Name : Type} [DecidableEq Name]

def find? (r : Run Name) (name : Name) : Option Wait :=
  (r.waits.find? (·.1 = name)).map (·.2)

def put (r : Run Name) (name : Name) (w : Wait) : Run Name :=
  { r with waits := r.waits.map fun e => if e.1 = name then (name, w) else e }

def remove (r : Run Name) (name : Name) : Run Name :=
  { r with waits := r.waits.filter (·.1 ≠ name) }

def poll (r : Run Name) (name : Name) : Run Name :=
  match r.find? name with
  | none => r
  | some w =>
    let (barrier, poll, meter) := r.barrier.poll r.now w
    let r := { r with barrier, meter := r.meter + meter }
    match poll with
    | .pending w => r.put name w
    | .done result => { r.remove name with results := r.results ++ [(name, result)] }

def drop (r : Run Name) (name : Name) : Run Name :=
  match r.find? name with
  | none => r
  | some w =>
    let (barrier, meter) := r.barrier.drop w
    { r.remove name with barrier, meter := r.meter + meter }

/-- Makes a wait, if none of that name is unfinished. -/
def create (r : Run Name) (name : Name) (timeout : Option Nat) : Run Name :=
  if (r.find? name).isSome then r else { r with waits := r.waits ++ [(name, { timeout })] }

def perform (r : Run Name) : Operation Name → Run Name
  | .create name timeout => r.create name timeout
  | .poll name => r.poll name
  | .drop name => r.drop name
  | .advance ms => { r with now := r.now + ms }
  | .abort =>
    let (barrier, meter) := r.barrier.abort
    { r with barrier, meter := r.meter + meter }
  | .reset =>
    let (barrier, meter) := r.barrier.reset
    { r with barrier, meter := r.meter + meter }

/-- Polls every unfinished wait once, in the order in which they were made. -/
def pollAll (r : Run Name) : Run Name :=
  (r.waits.map (·.1)).foldl poll r

def pollRounds (r : Run Name) : Nat → Run Name
  | 0 => r
  | rounds + 1 => r.pollAll.pollRounds rounds

/-- Polls all waits again and again until none finishes: a round in which one does leaves fewer for the next,
    so there are no more rounds than waits that do something. -/
def settle (r : Run Name) : Run Name :=
  r.pollRounds (r.waits.length + 1)

end Run
end Lockstep.Barrier
