import Lockstep.Text.Bytes

namespace Lockstep

structure PartitionKey where
  first : String
  last : String
  deriving DecidableEq, Repr

namespace PartitionKey

def display (k : PartitionKey) : String :=
  "[" ++ k.first ++ ", " ++ k.last ++ "]"

/-- Bytes compared from the left; of a text and a longer one that starts with it the shorter comes first. -/
def bytesLess : Bytes → Bytes → Bool
  | _, [] => false
  | [], _ :: _ => true
  | a :: as, b :: bs => a < b || (a == b && bytesLess as bs)

/-- Keys are ordered by their first text, then by their last, byte by byte. -/
def less (k l : PartitionKey) : Bool :=
  bytesLess (Text.bytes k.first) (Text.bytes l.first) ||
    (k.first = l.first && bytesLess (Text.bytes k.last) (Text.bytes l.last))

def sorted (keys : List PartitionKey) : List PartitionKey :=
  keys.eraseDups.mergeSort fun k l => !l.less k

end PartitionKey

/-- The number of a handle; the first one issued on a connection is 1. -/
abbrev Handle := Nat

end Lockstep
