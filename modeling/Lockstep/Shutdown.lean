/-!
# The shutdown signal

One sender, any number of receivers. A receiver learns of every request that
was made after it subscribed, several requests at once as one.
-/
namespace Lockstep

structure Shutdown (Name : Type) where
  /-- The requests made so far. -/
  requests : Nat := 0
  /-- The sender still exists. -/
  sending : Bool := true
  /-- The receivers, and how many requests each has seen. -/
  receivers : List (Name × Nat)

namespace Shutdown

variable {Name : Type} [DecidableEq Name]

def new (first : Name) : Shutdown Name :=
  { receivers := [(first, 0)] }

/-- How many requests the receiver has seen. -/
def seen? (s : Shutdown Name) (name : Name) : Option Nat :=
  (s.receivers.find? (·.1 = name)).map (·.2)

def drop (s : Shutdown Name) (name : Name) : Shutdown Name :=
  { s with receivers := s.receivers.filter (·.1 ≠ name) }

/-- A receiver of that name which has seen so many requests. -/
def put (s : Shutdown Name) (name : Name) (seen : Nat) : Shutdown Name :=
  { s with receivers := (s.drop name).receivers ++ [(name, seen)] }

/-- A new receiver, which sees requests from now on; only a sender can give one. -/
def subscribe? (s : Shutdown Name) (name : Name) : Option (Shutdown Name) :=
  if s.sending then some (s.put name s.requests) else none

/-- A receiver that has seen what another one has. -/
def clone? (s : Shutdown Name) (name source : Name) : Option (Shutdown Name) :=
  (s.seen? source).map (s.put name)

def dropSender (s : Shutdown Name) : Shutdown Name :=
  { s with sending := false }

inductive Requested where
  | sent
  /-- Nobody is left to hear it, and it is not remembered. -/
  | noReceivers
  | noSender
  deriving DecidableEq, Repr

def request (s : Shutdown Name) : Shutdown Name × Requested :=
  if !s.sending then (s, .noSender)
  else if s.receivers.isEmpty then (s, .noReceivers)
  else ({ s with requests := s.requests + 1 }, .sent)

/-- What a receiver finds. -/
inductive Observed where
  /-- A request that it had not seen. -/
  | shutdown
  | pending
  /-- Nothing new, and nobody left to send. -/
  | closed
  deriving DecidableEq, Repr

/-- Asks a receiver for a request that it has not seen, which it has seen then. -/
def changed? (s : Shutdown Name) (name : Name) : Option (Shutdown Name × Observed) :=
  (s.seen? name).map fun seen =>
    if seen < s.requests then
      ({ s with receivers := s.receivers.map fun r => if r.1 = name then (name, s.requests) else r }, .shutdown)
    else (s, if s.sending then .pending else .closed)

end Shutdown
end Lockstep
