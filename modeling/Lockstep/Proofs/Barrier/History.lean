import Lockstep.Barrier.Run

namespace Lockstep.Barrier

inductive Event (Name : Type) where
  /-- The wait was polled for the first time, and is a party of this generation. -/
  | arrived (name : Name) (generation : Nat)
  /-- The wait had arrived in this generation and was given up. -/
  | left (name : Name) (generation : Nat)
  /-- The wait belonged to this generation and finished. -/
  | returned (name : Name) (generation : Nat) (result : Result)
  deriving DecidableEq, Repr

/-- The generation that a wait belongs to: a wait that has not arrived would arrive in the current one. -/
def Wait.generation (b : Barrier) (w : Wait) : Nat :=
  match w.arrival with
  | some a => a.generation
  | none => b.generation

variable {Name : Type} [DecidableEq Name]

/-- What polling a wait shows. -/
def pollEvents (b : Barrier) (now : Nat) (name : Name) (w : Wait) : List (Event Name) :=
  let arrivals := if w.arrival.isNone && !b.broken then [.arrived name b.generation] else []
  match (b.poll now w).2.1 with
  | .pending _ => arrivals
  | .done result => arrivals ++ [.returned name (w.generation b) result]

def dropEvents (name : Name) (w : Wait) : List (Event Name) :=
  match w.arrival with
  | some a => [.left name a.generation]
  | none => []

namespace Event

/-- How an event changes who is present in a generation. -/
def tally (g : Nat) (names : List Name) : Event Name → List Name
  | .arrived name g' => if g' = g then names ++ [name] else names
  | .left name g' => if g' = g then names.filter (· ≠ name) else names
  | .returned .. => names

end Event

/-- Who has arrived in the generation and has not gone away, in the order of arrival. -/
def present (g : Nat) (h : List (Event Name)) : List Name :=
  h.foldl (Event.tally g) []

theorem present_append (g : Nat) (h es : List (Event Name)) :
    present g (h ++ es) = es.foldl (Event.tally g) (present g h) := by
  simp [present, List.foldl_append]

namespace Run

def run (r : Run Name) (ops : List (Operation Name)) : Run Name :=
  ops.foldl perform r

def events (r : Run Name) : Operation Name → List (Event Name)
  | .poll name =>
    match r.find? name with
    | some w => r.barrier.pollEvents r.now name w
    | none => []
  | .drop name =>
    match r.find? name with
    | some w => dropEvents name w
    | none => []
  | _ => []

/-- What operations show, in order. -/
def history (r : Run Name) : List (Operation Name) → List (Event Name)
  | [] => []
  | op :: ops => r.events op ++ (r.perform op).history ops

@[simp] theorem run_nil (r : Run Name) : r.run [] = r := rfl

@[simp] theorem run_cons (r : Run Name) (op : Operation Name) (ops : List (Operation Name)) :
    r.run (op :: ops) = (r.perform op).run ops := rfl

theorem run_append (r : Run Name) (before after : List (Operation Name)) :
    r.run (before ++ after) = (r.run before).run after :=
  List.foldl_append

@[simp] theorem history_nil (r : Run Name) : r.history [] = [] := rfl

@[simp] theorem history_cons (r : Run Name) (op : Operation Name) (ops : List (Operation Name)) :
    r.history (op :: ops) = r.events op ++ (r.perform op).history ops := rfl

end Run
end Lockstep.Barrier
