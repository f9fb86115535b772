import Lockstep.Address
import Lockstep.Secret

/-!
# The published identity of a server

A server publishes its address and its secret as two lines, each the name of a
variable and its value.
-/
namespace Lockstep

structure Identity where
  address : Address
  secret : Secret
  deriving DecidableEq

namespace Identity

def addressVariable : String := "RENDEZVOUS_ADDRESS"

def secretVariable : String := "RENDEZVOUS_SECRET"

def display (i : Identity) : String :=
  addressVariable ++ "=" ++ i.address.display ++ "\n" ++ secretVariable ++ "=" ++ i.secret.toBase64

end Identity
end Lockstep
