import Lockstep.Json.Record

namespace Lockstep

/-- What becomes of a generation when a blocked party goes away. -/
inductive AbandonPolicy where
  /-- It is broken, so that the other parties fail at once. -/
  | breakGeneration
  /-- The arrival is taken back, as if the party had never come. -/
  | withdraw
  deriving DecidableEq, Repr

namespace AbandonPolicy

def name : AbandonPolicy → String
  | .breakGeneration => "break"
  | .withdraw => "withdraw"

def ofName? (name : String) : Option AbandonPolicy :=
  if name = "break" then some .breakGeneration else if name = "withdraw" then some .withdraw else none

def ofJson? (v : Json) : Option AbandonPolicy := do
  ofName? (← Json.alternative? Json.isNull v)

end AbandonPolicy

end Lockstep
