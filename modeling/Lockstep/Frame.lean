import Lockstep.Text.Bytes
import Lockstep.Fault

/-!
# Frames

A stream of bytes carries frames: the length of the body in four bytes, the most
significant first, then the body. A body longer than 2^20 bytes is neither
written nor read.

A reader takes the length off the stream as soon as its four bytes are there.
What it finds does not depend on how the bytes arrived.
-/
namespace Lockstep.Frame

def maxBody : Nat := 0x100000

/-- The length of a body in four bytes. -/
def lengthBytes (n : Nat) : Bytes :=
  [UInt8.ofNat (n / 0x1000000), UInt8.ofNat (n / 0x10000), UInt8.ofNat (n / 0x100), UInt8.ofNat n]

/-- The length that four bytes give. -/
def lengthOf (a b c d : UInt8) : Nat :=
  a.toNat * 0x1000000 + b.toNat * 0x10000 + c.toNat * 0x100 + d.toNat

/-- What goes wrong with frames. -/
inductive Failure where
  | oversized
  /-- The stream ended inside a frame. -/
  | cut
  deriving DecidableEq, Repr

def Failure.fault : Failure → Fault
  | .oversized => .ofStream .other "frame size too big"
  | .cut => .ofStream .other "bytes remaining on stream"

/-- The bytes of a frame with this body. -/
def encode (body : Bytes) : Except Failure Bytes :=
  if body.length ≤ maxBody then .ok (lengthBytes body.length ++ body) else .error .oversized

structure Reader where
  /-- The length of a body whose length is read and whose bytes are not all there. -/
  expected : Option Nat := none
  /-- Bytes that were received and not read. -/
  buffer : Bytes := []
  deriving DecidableEq, Repr

inductive Found where
  | frame (body : Bytes) (rest : Reader)
  | starved (rest : Reader)
  | oversized
  deriving DecidableEq, Repr

namespace Reader

def push (r : Reader) (bytes : Bytes) : Reader :=
  { r with buffer := r.buffer ++ bytes }

def readBody (length : Nat) (buffer : Bytes) : Found :=
  if length ≤ buffer.length then .frame (buffer.take length) ⟨none, buffer.drop length⟩
  else .starved ⟨some length, buffer⟩

def read (r : Reader) : Found :=
  match r.expected with
  | some length => readBody length r.buffer
  | none =>
    match r.buffer with
    | a :: b :: c :: d :: rest =>
      let length := lengthOf a b c d
      if maxBody < length then .oversized else readBody length rest
    | _ => .starved r

end Reader

/-- What comes out of a stream at one moment. -/
inductive Item where
  | frame (body : Bytes)
  | failed (failure : Failure)
  /-- The stream is over. -/
  | finished
  /-- Nothing yet. -/
  | pending
  deriving DecidableEq, Repr

/-- The receiving side of a stream. -/
structure Inlet where
  reader : Reader := {}
  /-- The peer writes no more. -/
  closed : Bool := false
  /-- Reading failed, and nothing is read any more. -/
  failed : Bool := false
  deriving DecidableEq, Repr

namespace Inlet

def push (i : Inlet) (bytes : Bytes) : Inlet :=
  { i with reader := i.reader.push bytes }

def close (i : Inlet) : Inlet :=
  { i with closed := true }

/-- The next item. A stream that ends with bytes left over was cut; one that ends right after a length was not,
    because no byte is left. -/
def next (i : Inlet) : Item × Inlet :=
  if i.failed then (.finished, i)
  else match i.reader.read with
    | .frame body rest => (.frame body, { i with reader := rest })
    | .oversized => (.failed .oversized, { i with failed := true })
    | .starved rest =>
      let i := { i with reader := rest }
      if !i.closed then (.pending, i)
      else if rest.buffer.isEmpty then (.finished, i)
      else (.failed .cut, { i with failed := true })

/-- The items that are there, at most so many. -/
def items : Nat → Inlet → List Item × Inlet
  | 0, i => ([], i)
  | count + 1, i =>
    match i.next with
    | (.pending, i) => ([], i)
    | (.finished, i) => ([.finished], i)
    | (item, i) =>
      let (rest, i) := items count i
      (item :: rest, i)

/-- All items up to the moment at which nothing is left or the stream is over. A frame takes at least four
    bytes, or the length that was read before. -/
def drain (i : Inlet) : List Item × Inlet :=
  i.items (i.reader.buffer.length + 3)

end Inlet

/-- What happens on a stream: bytes arrive, or the peer ends it. -/
inductive Chunk where
  | bytes (bytes : Bytes)
  | close
  deriving DecidableEq, Repr

def Inlet.receive (i : Inlet) : Chunk → Inlet
  | .bytes bytes => i.push bytes
  | .close => i.close

/-- The items that come out after each chunk; once the stream is over there are none. -/
def Inlet.transcript (i : Inlet) : List Chunk → List (List Item)
  | [] => []
  | c :: rest =>
    let (items, i) := (i.receive c).drain
    if items.getLast? = some .finished then items :: rest.map fun _ => [] else items :: i.transcript rest

/-- The sending side of a stream whose peer may be gone. -/
structure Outlet where
  /-- The peer takes no more bytes. -/
  gone : Bool := false
  /-- Bytes that could not be handed over. -/
  unsent : Nat := 0
  deriving DecidableEq, Repr

/-- When so many bytes are unsent, they are tried again before anything is added. -/
def Outlet.limit : Nat := 8192

/-- The fault of writing to a peer that is gone. -/
def brokenPipe : Fault :=
  .ofStream .brokenPipe "broken pipe"

/-- Writes one frame: the bytes that go out, or why none do. -/
def Outlet.send (o : Outlet) (body : Bytes) : Except Fault Bytes × Outlet :=
  if o.gone ∧ limit ≤ o.unsent then (.error brokenPipe, o)
  else match encode body with
    | .error failure => (.error failure.fault, o)
    | .ok bytes =>
      if o.gone then (.error brokenPipe, { o with unsent := o.unsent + bytes.length }) else (.ok bytes, o)

end Lockstep.Frame
