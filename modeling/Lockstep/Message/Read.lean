import Lockstep.Message.Written
import Lockstep.Json.Record

/-!
# Reading messages

A message is read when all of its text is sound, its type is known and its
fields are what they should be. Fields of other names are passed over.
-/
namespace Lockstep
open Json

def PartitionKey.ofJson? (v : Json) : Option PartitionKey := do
  let [first, last] ← record? ["start", "end"] v | none
  some ⟨← required? asText? first, ← required? asText? last⟩

namespace Request

/-- A request with a handle alone. -/
def withHandle? (make : Handle → Request) (v : Json) : Option Request := do
  let [handle] ← record? ["handle"] v | none
  some (make (← required? asNatural? handle))

/-- The request of that name with these fields. -/
def ofFields? (name : String) (v : Json) : Option Request :=
  if name = "hello" then do
    let [secret] ← record? ["secret"] v | none
    some (.hello (← required? asText? secret))
  else if name = "get_barrier" then do
    let [key] ← record? ["key"] v | none
    some (.getBarrier (← required? PartitionKey.ofJson? key))
  else if name = "wait" then do
    let [handle, timeout] ← record? ["handle", "timeout_ms"] v | none
    some (.wait (← required? asNatural? handle) (← optional? asNatural? timeout))
  else if name = "status" then withHandle? .status v
  else if name = "abort" then withHandle? .abort v
  else if name = "reset" then withHandle? .reset v
  else none

def ofJson? (v : Json) : Option Request := do
  let (name, v) ← tagged? v
  ofFields? name v

def decode? (body : Bytes) : Option Request := do
  ofJson? (← sound? body)

end Request

/-- A code by its name. -/
def Code.ofJson? (empty : Json → Bool) (v : Json) : Option Code := do
  ofName? (← alternative? empty v)

namespace Response

/-- The response of that name with these fields. -/
def ofFields? (name : String) (v : Json) : Option Response :=
  if name = "welcome" then do
    let [parties] ← record? ["parties"] v | none
    some (.welcome (← required? asNatural? parties))
  else if name = "handle" then do
    let [h, parties] ← record? ["handle", "parties"] v | none
    some (.handle (← required? asNatural? h) (← required? asNatural? parties))
  else if name = "arrived" then do
    let [index] ← record? ["index"] v | none
    some (.arrived (← required? asNatural? index))
  else if name = "status" then do
    let [parties, waiting, broken, generation] ← record? ["parties", "n_waiting", "broken", "generation"] v | none
    some (.status ⟨← required? asNatural? parties, ← required? asNatural? waiting, ← required? asTruth? broken,
      ← required? asNatural? generation⟩)
  else if name = "ok" then
    match v with
    | .object _ | .array [] => some .ok
    | _ => none
  else if name = "error" then do
    let [code, message] ← record? ["code", "message"] v | none
    some (.error (← required? (Code.ofJson? isBlank) code) (← required? asText? message))
  else none

def ofJson? (v : Json) : Option Response := do
  let (name, v) ← tagged? v
  ofFields? name v

def decode? (body : Bytes) : Option Response := do
  ofJson? (← sound? body)

end Response

/-! ### Parts of messages that stand alone

What stands alone is read without looking at values that nobody asks for. -/

def PartitionKey.decode? (body : Bytes) : Option PartitionKey := do
  ofJson? (← value? body)

def Handle.decode? (body : Bytes) : Option Handle := do
  asNatural? (← value? body)

/-- A shown secret. -/
def decodeCredential? (body : Bytes) : Option String := do
  asText? (← value? body)

def Code.decode? (body : Bytes) : Option Code := do
  ofJson? isNull (← value? body)

def AbandonPolicy.decode? (body : Bytes) : Option AbandonPolicy := do
  ofJson? (← value? body)

end Lockstep
