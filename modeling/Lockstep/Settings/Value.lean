import Lockstep.AbandonPolicy
import Lockstep.Binary64.Read
import Lockstep.Text.Lowercase

/-!
# Values of settings

Settings come as texts and become truth values, numbers, texts, arrays and
tables. A field that wants another type than the one it is given converts it.
-/
namespace Lockstep.Settings

inductive Value where
  | absent
  | truth (value : Bool)
  | integer (value : Int)
  | float (value : Binary64)
  | text (value : String)
  | array (items : List Value)
  /-- Entries by name; no name stands twice. -/
  | table (entries : List (String × Value))
  deriving Repr

namespace Value

/-- What the text of a variable stands for: a truth value, an integer, a floating point number, or itself. -/
def ofText (s : String) : Value :=
  let word := Text.lower s
  if word = "true" then .truth true
  else if word = "false" then .truth false
  else match integerText? s with
    | some n => .integer n
    | none => match Binary64.parse? s with
      | some x => .float x
      | none => .text s

def maxNatural : Nat := 0xffffffffffffffff

/-- The number that a text stands for: a word for yes is 1, a word for no is 0. -/
def naturalOfText? (s : String) : Option Nat :=
  let word := Text.lower s
  if word = "true" ∨ word = "on" ∨ word = "yes" then some 1
  else if word = "false" ∨ word = "off" ∨ word = "no" then some 0
  else naturalText? maxNatural s

/-- A natural number of 64 bits: what is not finite or out of range as a floating point number goes to the
    nearest end of the range. -/
def asNatural? : Value → Option Nat
  | .truth b => some b.toNat
  | .integer n => if 0 ≤ n ∧ n ≤ maxNatural then some n.toNat else none
  | .float x => some (if x.isNegative then 0 else x.roundedMagnitude maxNatural)
  | .text s => naturalOfText? s
  | _ => none

def asPort? (v : Value) : Option Nat := do
  let n ← v.asNatural?
  if n < 0x10000 then some n else none

/-- A text; numbers are written with the fewest digits. -/
def asText? : Value → Option String
  | .truth b => some (if b then "true" else "false")
  | .integer n => some (toString n)
  | .float x => some x.toText
  | .text s => some s
  | _ => none

/-- A policy by its name in any case. -/
def policyOfName? (name : String) : Option AbandonPolicy :=
  AbandonPolicy.ofName? (Text.lower name)

/-- A policy: its name, or a table with that one entry. -/
def asPolicy? : Value → Option AbandonPolicy
  | .text name => policyOfName? name
  | .table [(name, _)] => policyOfName? name
  | _ => none

def entry? (v : Value) (name : String) : Option Value :=
  match v with
  | .table entries => (entries.find? (·.1 = name)).map (·.2)
  | _ => none

/-- The entries of a table; what is none has no entries. -/
def entries : Value → List (String × Value)
  | .table entries => entries
  | _ => []

/-- The items of an array; what is none has no items. -/
def items : Value → List Value
  | .array items => items
  | _ => []

/-- Replaces the entry of a name, or adds one at the end. -/
def setEntry (name : String) (v : Value) : List (String × Value) → List (String × Value)
  | [] => [(name, v)]
  | (n, w) :: rest => if n = name then (name, v) :: rest else (n, w) :: setEntry name v rest

end Value
end Lockstep.Settings
