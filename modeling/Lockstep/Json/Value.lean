import Lockstep.Json.Token

/-!
# JSON values

A value keeps its numerals and quoted texts as they are written, because what
is never asked for is never converted. Objects keep their members in order,
repeated names included.
-/
namespace Lockstep

inductive Json where
  | null
  | truth (value : Bool)
  | numeral (written : Bytes)
  | quoted (body : Bytes)
  | array (items : List Json)
  | object (members : List (Bytes × Json))
  deriving Repr

namespace Json

/-- A container that is not closed yet; its contents are kept last first. -/
inductive Container where
  | array (items : List Json)
  | object (members : List (Bytes × Json)) (name : Bytes)

/-- What may come next. -/
inductive Expected where
  | value
  /-- The first item of an array, or its end. -/
  | firstItem
  /-- The first member of an object, or its end. -/
  | firstMember
  | member
  | colon
  /-- A value is complete: a comma, the end of its container or of the text. -/
  | more (value : Json)

structure Builder where
  /-- The containers that are open, innermost first. -/
  containers : List Container := []
  expected : Expected := .value

namespace Builder

/-- The first token of a value. -/
def value? (s : List Container) : Token → Option Builder
  | .null => some ⟨s, .more .null⟩
  | .truth b => some ⟨s, .more (.truth b)⟩
  | .numeral w => some ⟨s, .more (.numeral w)⟩
  | .quoted b => some ⟨s, .more (.quoted b)⟩
  | .openArray => some ⟨.array [] :: s, .firstItem⟩
  | .openObject => some ⟨.object [] [] :: s, .firstMember⟩
  | _ => none

def next? (b : Builder) (t : Token) : Option Builder :=
  match b.expected, b.containers with
  | .value, s => value? s t
  | .firstItem, s =>
    if t = .closeArray then match s with
      | .array _ :: s => some ⟨s, .more (.array [])⟩
      | _ => none
    else value? s t
  | .firstMember, .object _ _ :: s =>
    match t with
    | .closeObject => some ⟨s, .more (.object [])⟩
    | .quoted name => some ⟨.object [] name :: s, .colon⟩
    | _ => none
  | .member, .object members _ :: s =>
    match t with
    | .quoted name => some ⟨.object members name :: s, .colon⟩
    | _ => none
  | .colon, s => if t = .colon then some ⟨s, .value⟩ else none
  | .more v, .array items :: s =>
    match t with
    | .comma => some ⟨.array (v :: items) :: s, .value⟩
    | .closeArray => some ⟨s, .more (.array (v :: items).reverse)⟩
    | _ => none
  | .more v, .object members name :: s =>
    match t with
    | .comma => some ⟨.object ((name, v) :: members) name :: s, .member⟩
    | .closeObject => some ⟨s, .more (.object ((name, v) :: members).reverse)⟩
    | _ => none
  | _, _ => none

/-- The value, when all containers are closed. -/
def finish? : Builder → Option Json
  | ⟨[], .more v⟩ => some v
  | _ => none

end Builder

def ofTokens? (tokens : List Token) : Option Json :=
  (tokens.foldlM Builder.next? {}).bind Builder.finish?

end Json
end Lockstep
