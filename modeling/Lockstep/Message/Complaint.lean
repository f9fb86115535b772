import Lockstep.Message.Read

/-!
# What is wrong with a frame

A frame that holds no request is answered in the words of the parser that
refused it. Three of its texts quote a text of the frame in full, however long it
is: the name of an unknown type, a text in the place of a field, and a text in
the place of the request. These are made here, as soon as the parser comes to
them. Its other texts quote nothing, and are left empty.
-/
namespace Lockstep
open Json

/-- A place in a text: the line, and how many bytes of it were read. -/
structure Place where
  line : Nat := 1
  column : Nat := 0
  deriving DecidableEq, Repr

namespace Place

/-- The place one byte further on. -/
def next (p : Place) (b : UInt8) : Place :=
  if b = 10 then ⟨p.line + 1, 0⟩ else ⟨p.line, p.column + 1⟩

def text (p : Place) : String :=
  " at line " ++ toString p.line ++ " column " ++ toString p.column

end Place

namespace Complaint

def unknownType (name : String) (place : Place) : String :=
  "unknown variant `" ++ name ++ "`, expected one of `hello`, `get_barrier`, `wait`, `status`, `abort`, `reset`" ++
    place.text

/-- A text stands where something else is wanted. -/
def textFor (text wanted : String) : String :=
  "invalid type: string " ++ Text.quoted text ++ ", expected " ++ wanted

def textAlone (text : String) (place : Place) : String :=
  textFor text "internally tagged enum Request" ++ place.text

/-- A natural number as a field: what is wanted, and what fits. -/
def naturalField (name : String) (fits : Json → Bool) : String × String × (Json → Bool) :=
  (name, "u64", fits)

/-- The fields of a request that are no texts: name, what is wanted, and what fits. -/
def fieldRules (name : String) : List (String × String × (Json → Bool)) :=
  if name = "get_barrier" then
    [("key", "struct PartitionKey", fun v => (PartitionKey.ofJson? v).isSome)]
  else if name = "wait" then
    [naturalField "handle" fun v => (asNatural? v).isSome,
      naturalField "timeout_ms" fun v => (asOptional? asNatural? v).isSome]
  else if name = "hello" then []
  else [naturalField "handle" fun v => (asNatural? v).isSome]

/-- The fields of a tagged record by name; those of an array have the names in order. -/
def namedFields (names : List String) : Json → List (String × Json)
  | .object members => members.filterMap fun (name, value) => (text? name).map (·, value)
  | .array items => names.zip items
  | _ => []

/-- The first field that is wrong, if it is a text. A field that stands twice is wrong when it comes again. -/
def ofFields? (rules : List (String × String × (Json → Bool))) (seen : List String) :
    List (String × Json) → Option String
  | [] => none
  | (name, value) :: rest =>
    match rules.find? (·.1 = name) with
    | none => ofFields? rules seen rest
    | some (_, wanted, fits) =>
      if seen.contains name then none
      else if fits value then ofFields? rules (name :: seen) rest
      else (asText? value).map (textFor · wanted)

/-- What is wrong with a value that is complete. -/
def ofValue? (v : Json) : Option String := do
  let (name, record) ← tagged? v
  let rules := fieldRules name
  ofFields? rules [] (namedFields (rules.map (·.1)) record)

end Complaint

def requestNames : List String :=
  ["hello", "get_barrier", "wait", "status", "abort", "reset"]

/-- How far the parser has come. -/
inductive Search where
  /-- Whether the type was found, how many containers are open, and where it is. -/
  | reading (scanner : Scanner) (builder : Builder) (typed : Bool) (depth : Nat) (place : Place)
  /-- The value is complete, or something is wrong with it. -/
  | over (complaint : Option String)

namespace Search

/-- The next value is the request itself. -/
def atRequest (b : Builder) : Bool :=
  b.containers.isEmpty && b.expected matches .value

/-- The next value is the type of the request. -/
def atType (b : Builder) : Bool :=
  match b.expected, b.containers with
  | .value, [.object _ name] => text? name = some "type"
  | .firstItem, [.array []] => true
  | _, _ => false

/-- What is wrong with a token where it stands, if it is a text. -/
def judge (b : Builder) (typed : Bool) (place : Place) : Token → Option String
  | .quoted body => do
    let text ← text? body
    if atRequest b then some (Complaint.textAlone text place)
    else if atType b && !typed && !requestNames.contains text then some (Complaint.unknownType text place)
    else none
  | _ => none

/-- How many containers are open after a token. -/
def depthAfter (depth : Nat) : Token → Nat
  | .openObject | .openArray => depth + 1
  | .closeObject | .closeArray => depth - 1
  | _ => depth

/-- Takes the tokens that a byte completed, oldest first. What follows the value is not read any more: a field of the
    value that is wrong is told before it. -/
def take (scanner : Scanner) (place : Place) (builder : Builder) (typed : Bool) (depth : Nat) : List Token → Search
  | [] => .reading scanner builder typed depth place
  | t :: rest =>
    let depth := depthAfter depth t
    if !t.sound ∨ maxDepth < depth then .over none
    else
      match judge builder typed place t, builder.next? t with
      | some complaint, _ => .over (some complaint)
      | none, none => .over none
      | none, some next =>
        match next.finish? with
        | some v => .over (Complaint.ofValue? v)
        | none => take scanner place next (typed || atType builder) depth rest

def next (s : Search) (b : UInt8) : Search :=
  match s with
  | .over complaint => .over complaint
  | .reading scanner builder typed depth place =>
    match scanner.next? b with
    | none => .over none
    | some scanner =>
      take { scanner with tokens := [] } (place.next b) builder typed depth scanner.tokens.reverse

def complaint? : Search → Option String
  | .over complaint => complaint
  | .reading .. => none

end Search

/-- What the parser says is wrong with a frame that holds no request. -/
def Request.complaint (body : Bytes) : String :=
  (body.foldl Search.next (.reading {} {} false 0 {})).complaint?.getD ""

end Lockstep
