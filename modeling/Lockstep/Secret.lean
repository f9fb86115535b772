import Lockstep.Base64
import Lockstep.Fault

/-!
# The shared secret

Server and workers share a secret of 32 bytes, which is handed out and shown on
a connection in base 64. Blanks around a shown secret do not count.
-/
namespace Lockstep

structure Secret where
  key : Bytes
  length_key : key.length = 32
  deriving DecidableEq

namespace Secret

/-- The text that is handed to workers. -/
def toBase64 (s : Secret) : String :=
  Base64.encode s.key

/-- The text that is shown spells this secret. -/
def verify (s : Secret) (shown : String) : Bool :=
  Base64.decode? (Text.trim shown) = some s.key

/-- What stands for a secret wherever values are inspected. -/
def redacted : String := "SharedSecret([REDACTED])"

inductive Unreadable where
  | notBase64
  | wrongLength (bytes : Nat)
  deriving DecidableEq, Repr

def parse (text : String) : Except Unreadable Secret :=
  match Base64.decode? (Text.trim text) with
  | none => .error .notBase64
  | some key => if h : key.length = 32 then .ok ⟨key, h⟩ else .error (.wrongLength key.length)

/-- The fault that a text which is no secret reports. -/
def Unreadable.fault : Unreadable → Fault
  | .notBase64 => ⟨.invalidSecret, "Shared secret is not base64 encoded", none, ["invalid base 64"]⟩
  | .wrongLength n =>
    ⟨.invalidSecret, "Shared secret has the wrong length", some ("expected 32 bytes, got " ++ toString n), []⟩

end Secret
end Lockstep
