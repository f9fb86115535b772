import Lockstep.Barrier
import Lockstep.Key

/-!
# The registry

One barrier for every partition key that was ever asked for. A key is entered
once and stays; its barrier is named by its place in the registry, so asking for
equal keys gives the same barrier and asking for different keys different ones.
-/
namespace Lockstep

structure Registry where
  options : Barrier.Options
  /-- Keys and their barriers, in the order in which they were first asked for. -/
  entries : Array (PartitionKey × Barrier) := #[]
  deriving DecidableEq, Repr

namespace Registry

abbrev Place := Nat

def size (r : Registry) : Nat :=
  r.entries.size

/-- The barrier of a key, if it was asked for before. -/
def find? (r : Registry) (key : PartitionKey) : Option Place :=
  r.entries.findIdx? (·.1 = key)

def barrier? (r : Registry) (place : Place) : Option Barrier :=
  r.entries[place]?.map (·.2)

/-- Enters a key that is new. The attempt counts even when no barrier can be made. -/
def create (r : Registry) (key : PartitionKey) : Registry × Option Place × Meter :=
  match Barrier.new? r.options with
  | some b => ({ r with entries := r.entries.push (key, b) }, some r.entries.size, { created := 1 })
  | none => (r, none, { created := 1 })

/-- The barrier of a key, made when the key is new. There is none only if barriers cannot be made at all. -/
def getOrCreate (r : Registry) (key : PartitionKey) : Registry × Option Place × Meter :=
  match r.find? key with
  | some place => (r, some place, {})
  | none => r.create key

/-- Puts a barrier in the place of the one it came from. -/
def put (r : Registry) (place : Place) (b : Barrier) : Registry :=
  match r.entries[place]? with
  | some (key, _) => { r with entries := r.entries.setIfInBounds place (key, b) }
  | none => r

/-- Applies an operation to one barrier; what it yields is lost when there is no such barrier. -/
def update (r : Registry) (place : Place) (f : Barrier → Barrier × Meter) : Registry × Meter :=
  match r.barrier? place with
  | some b =>
    let (b, meter) := f b
    (r.put place b, meter)
  | none => (r, {})

end Registry
end Lockstep
