import Lockstep.Message
import Lockstep.Json.Printer

namespace Lockstep
open Json

def PartitionKey.written (k : PartitionKey) : String :=
  Print.object [("start", Print.text k.first), ("end", Print.text k.last)]

namespace Request

def fields : Request → List (String × String)
  | .hello secret => [("secret", Print.text secret)]
  | .getBarrier key => [("key", key.written)]
  | .wait handle none => [("handle", Print.natural handle)]
  | .wait handle (some timeout) => [("handle", Print.natural handle), ("timeout_ms", Print.natural timeout)]
  | .status handle | .abort handle | .reset handle => [("handle", Print.natural handle)]

def written (r : Request) : String :=
  Print.object (("type", Print.text r.name) :: r.fields)

/-- The body of the frame that carries the request. -/
def encode (r : Request) : Bytes :=
  Text.bytes r.written

end Request

namespace Response

def name : Response → String
  | .welcome _ => "welcome"
  | .handle _ _ => "handle"
  | .arrived _ => "arrived"
  | .status _ => "status"
  | .ok => "ok"
  | .error _ _ => "error"

def fields : Response → List (String × String)
  | .welcome parties => [("parties", Print.natural parties)]
  | .handle h parties => [("handle", Print.natural h), ("parties", Print.natural parties)]
  | .arrived index => [("index", Print.natural index)]
  | .status s =>
    [("parties", Print.natural s.parties), ("n_waiting", Print.natural s.waiting), ("broken", Print.truth s.broken),
      ("generation", Print.natural s.generation)]
  | .ok => []
  | .error code message => [("code", Print.text code.name), ("message", Print.text message)]

def written (r : Response) : String :=
  Print.object (("type", Print.text r.name) :: r.fields)

/-- The body of the frame that carries the response. -/
def encode (r : Response) : Bytes :=
  Text.bytes r.written

end Response
end Lockstep
