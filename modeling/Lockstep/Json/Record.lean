import Lockstep.Json.Literal

namespace Lockstep.Json

def asText? : Json → Option String
  | .quoted body => text? body
  | _ => none

/-- A natural number of at most 64 bits, written without fraction and exponent. -/
def asNatural? : Json → Option Nat
  | .numeral written => natural? written
  | _ => none

def asTruth? : Json → Option Bool
  | .truth b => some b
  | _ => none

/-- A value that is absent when it is null. -/
def asOptional? {α : Type} (read? : Json → Option α) : Json → Option (Option α)
  | .null => some none
  | v => (read? v).map some

/-- The members of an object by the texts of their names; every name has to be a text. -/
def named? (members : List (Bytes × Json)) : Option (List (String × Json)) :=
  members.mapM fun (name, value) => (text? name).map (·, value)

def valuesOf (name : String) (members : List (String × Json)) : List Json :=
  (members.filter (·.1 = name)).map (·.2)

/-- The value of a field, if there is one; none twice. -/
def field? (members : List (String × Json)) (name : String) : Option (Option Json) :=
  match valuesOf name members with
  | [] => some none
  | [v] => some (some v)
  | _ => none

/-- The values of the fields, in order, and which are missing. -/
def record? (fields : List String) : Json → Option (List (Option Json))
  | .object members => do
    let members ← named? members
    fields.mapM (field? members)
  | .array items =>
    if items.length ≤ fields.length then
      some (items.map some ++ List.replicate (fields.length - items.length) none)
    else none
  | _ => none

/-- The name of a tagged record's variant, and the record without it. -/
def tagged? : Json → Option (String × Json)
  | .object members => do
    let named ← named? members
    let tag ← field? named "type"
    let variant ← tag >>= asText?
    some (variant, .object (members.filter fun (name, _) => text? name ≠ some "type"))
  | .array (tag :: fields) => do some (← asText? tag, .array fields)
  | _ => none

/-- The name of an alternative: a text, or an object with that one member and an empty value. -/
def alternative? (empty : Json → Bool) : Json → Option String
  | .quoted body => text? body
  | .object [(name, value)] => if empty value then text? name else none
  | _ => none

/-- Null alone is empty. -/
def isNull : Json → Bool
  | .null => true
  | _ => false

/-- Null and the object without members are empty. -/
def isBlank : Json → Bool
  | .null | .object [] => true
  | _ => false

/-- A field that has to be there. -/
def required? {α : Type} (read? : Json → Option α) (value : Option Json) : Option α :=
  value.bind read?

/-- A field that may be missing or null. -/
def optional? {α : Type} (read? : Json → Option α) : Option Json → Option (Option α)
  | none => some none
  | some v => asOptional? read? v

/-- A field that has a value when it is missing. -/
def defaulted? {α : Type} (read? : Json → Option α) (default : α) : Option Json → Option α
  | none => some default
  | some v => read? v

def asPort? (v : Json) : Option Nat := do
  let n ← asNatural? v
  if n < 0x10000 then some n else none

end Lockstep.Json
