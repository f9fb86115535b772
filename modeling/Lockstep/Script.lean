import Lockstep.Address
import Lockstep.Frame

/-!
# A scripted stand-in for a server

It answers by rote: the n-th frame that it takes gets the n-th entry of its
script, whatever the frame says. One connection is served at a time, in the
order in which they were made.
-/
namespace Lockstep

namespace Script

/-- What a frame is answered with. -/
inductive Entry where
  /-- Writes these bytes, and then perhaps closes the connection. -/
  | write (bytes : Bytes) (close : Bool)
  /-- Leaves the connection open for good and turns to the next one. -/
  | silent
  deriving DecidableEq, Repr

/-- What remains to be said when the script is used up. -/
def exhausted : Entry :=
  .write [] true

/-- The stand-in's end of a connection. -/
structure Line where
  inlet : Frame.Inlet := {}
  /-- Bytes that were written and not received yet. -/
  outgoing : Bytes := []
  closed : Bool := false
  deriving DecidableEq, Repr

end Script

structure Script where
  /-- The entries that are not used. -/
  entries : List Script.Entry
  lines : Array Script.Line := #[]
  /-- The connection that is served, or the next one that will be. -/
  serving : Nat := 0
  seen : List Bytes := []
  deriving DecidableEq, Repr

namespace Script

def address : Address :=
  .v4 127 0 0 1 50000

/-- A connection is accepted, as the one of that number. -/
def accept (s : Script) : Nat × Script :=
  (s.lines.size, { s with lines := s.lines.push {} })

def modifyInlet (s : Script) (i : Nat) (f : Frame.Inlet → Frame.Inlet) : Script :=
  { s with lines := s.lines.modify i fun l => { l with inlet := f l.inlet } }

def receive (s : Script) (i : Nat) (bytes : Bytes) : Script :=
  s.modifyInlet i (·.push bytes)

def halfClose (s : Script) (i : Nat) : Script :=
  s.modifyInlet i (·.close)

/-- The stand-in's end of a connection is closed. -/
def hasClosed (s : Script) (i : Nat) : Bool :=
  match s.lines[i]? with
  | some l => l.closed
  | none => true

def collect (s : Script) (i : Nat) : Bytes × Script :=
  match s.lines[i]? with
  | some l => (l.outgoing, { s with lines := s.lines.setIfInBounds i { l with outgoing := [] } })
  | none => ([], s)

/-- The connection that is served changes, and is served no longer if so told. -/
def put (s : Script) (line : Line) (leave : Bool) : Script :=
  { s with
    lines := s.lines.setIfInBounds s.serving line
    serving := if leave then s.serving + 1 else s.serving }

/-- Answers a frame that was taken from a connection. -/
def answer (s : Script) (line : Line) (body : Bytes) : Script :=
  let entry := s.entries.head?.getD exhausted
  let s := { s with entries := s.entries.tail, seen := s.seen ++ [body] }
  match entry with
  | .write bytes close => s.put { line with outgoing := line.outgoing ++ bytes, closed := close } close
  | .silent => s.put line true

/-- One turn, if there is something to do in it. A stream that ends or fails ends the connection. -/
def turn (s : Script) : Option Script :=
  match s.lines[s.serving]? with
  | none => none
  | some line =>
    match line.inlet.next with
    | (.pending, _) => none
    | (.frame body, inlet) => some (s.answer { line with inlet } body)
    | (_, inlet) => some (s.put { line with inlet, closed := true } true)

def turns (s : Script) : Nat → Script
  | 0 => s
  | fuel + 1 =>
    match s.turn with
    | some s => s.turns fuel
    | none => s

/-- Lets the stand-in do what it can: a frame takes a byte at least, and a connection ends once. -/
def settle (s : Script) : Script :=
  s.turns (s.lines.foldl (fun n l => n + l.inlet.reader.buffer.length + 2) 0)

end Script
end Lockstep
