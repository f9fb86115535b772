import Lockstep.Script
import Lockstep.Server

namespace Lockstep

inductive Host where
  | server (server : Server)
  | script (script : Script)

namespace Host

def address : Host → Address
  | .server s => s.address
  | .script _ => Script.address

/-- A connection is accepted, as the one of that number, unless the host is stopped. -/
def accept : Host → Option (Nat × Host)
  | .server s => s.accept.map fun (i, s) => (i, .server s)
  | .script s =>
    let (i, s) := s.accept
    some (i, .script s)

def receive (i : Nat) (bytes : Bytes) : Host → Host
  | .server s => .server (s.receive i bytes)
  | .script s => .script (s.receive i bytes)

def halfClose (i : Nat) : Host → Host
  | .server s => .server (s.halfClose i)
  | .script s => .script (s.halfClose i)

def close (i : Nat) : Host → Host
  | .server s => .server (s.close i)
  | .script s => .script (s.halfClose i)

/-- The host's end of a connection is closed. -/
def hasClosed (i : Nat) : Host → Bool
  | .server s => s.hasClosed i
  | .script s => s.hasClosed i

def collect (i : Nat) : Host → Bytes × Host
  | .server s =>
    let (bytes, s) := s.collect i
    (bytes, .server s)
  | .script s =>
    let (bytes, s) := s.collect i
    (bytes, .script s)

def advance (milliseconds : Nat) : Host → Host
  | .server s => .server (s.advance milliseconds)
  | .script s => .script s

def settle : Host → Host
  | .server s => .server s.settle
  | .script s => .script s.settle

end Host
end Lockstep
