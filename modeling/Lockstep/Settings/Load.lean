import Lockstep.ClientConfig
import Lockstep.ServerConfig
import Lockstep.Settings.Path

/-!
# Loading settings

Settings come from variables of the environment whose names start with `APP_`,
and from overrides, which apply after them. Two underscores in the name of a
variable lead into a table. Names do not depend on case.
-/
namespace Lockstep.Settings

/-! ### Variables -/

/-- Every two underscores become a point. -/
def pointed : List Char → List Char
  | '_' :: '_' :: rest => '.' :: pointed rest
  | c :: rest => c :: pointed rest
  | [] => []

/-- The key that a variable sets, if its name is one of ours. -/
def keyOfVariable? (name : String) : Option String :=
  match (Text.lower name).toList with
  | 'a' :: 'p' :: 'p' :: '_' :: rest => some (String.ofList (pointed rest))
  | _ => none

/-- The place of a key; one that is no path is a name as it stands. -/
def placeOf (key : String) : Path :=
  (Path.parse? key).getD [.entry key]

/-- Sets what one variable says. -/
def setVariable (tree : Value) (entry : String × String) : Value :=
  match keyOfVariable? entry.1 with
  | some key => (placeOf key).set (.ofText entry.2) tree
  | none => tree

/-- The tree of settings that the variables make. -/
def ofVariables (entries : List (String × String)) : Value :=
  entries.foldl setVariable (.table [])

/-! ### Overrides -/

/-- Keys and values, in the order in which they were set. -/
abbrev Overrides := List (String × Value)

inductive Failure where
  /-- The key of an override is no path. -/
  | badOverride (key : String)
  /-- The merged settings lack a field, or have one of a wrong type. -/
  | unsuitable
  deriving DecidableEq, Repr

/-- The places of the overrides; the first key that is no path is an error. -/
def places (overrides : Overrides) : Except Failure (List (Path × Value)) :=
  overrides.mapM fun (key, value) =>
    match Path.parse? key with
    | some path => .ok (path, value)
    | none => .error (.badOverride key)

def merge (entries : List (String × String)) (overrides : Overrides) : Except Failure Value := do
  let placed ← places overrides
  return placed.foldl (fun tree (path, value) => path.set value tree) (ofVariables entries)

/-! ### Fields -/

/-- A field that has to be there. -/
def need? {α : Type} (read? : Value → Option α) (tree : Value) (name : String) : Option α :=
  (tree.entry? name).bind read?

/-- A field that has a value when it is missing. -/
def default? {α : Type} (read? : Value → Option α) (value : α) (tree : Value) (name : String) : Option α :=
  match tree.entry? name with
  | none => some value
  | some v => read? v

/-- A field that may be missing. -/
def maybe? {α : Type} (read? : Value → Option α) (tree : Value) (name : String) : Option (Option α) :=
  match tree.entry? name with
  | none | some .absent => some none
  | some v => (read? v).map some

def serverOf? (tree : Value) : Option ServerConfig := do
  some {
    host := ← default? Value.asText? "0.0.0.0" tree "host"
    port := ← default? Value.asPort? 50000 tree "port"
    parties := ← need? Value.asNatural? tree "nprocs"
    waitTimeout := ← maybe? Value.asNatural? tree "wait_timeout_ms"
    policy := ← default? Value.asPolicy? .breakGeneration tree "abandon_policy"
    handshakeTimeout := ← default? Value.asNatural? 10000 tree "handshake_timeout_ms"
    metricsPort := ← maybe? Value.asPort? tree "metrics_port" }

def clientOf? (tree : Value) : Option ClientConfig := do
  some {
    address := ← need? Value.asText? tree "address"
    secret := ← need? Value.asText? tree "secret"
    connectTimeout := ← default? Value.asNatural? 10000 tree "connect_timeout_ms" }

/-- Loads settings of some kind. -/
def load {α : Type} (read? : Value → Option α) (entries : List (String × String)) (overrides : Overrides) :
    Except Failure α := do
  match read? (← merge entries overrides) with
  | some settings => .ok settings
  | none => .error .unsuitable

def loadServer : List (String × String) → Overrides → Except Failure ServerConfig :=
  load serverOf?

def loadClient : List (String × String) → Overrides → Except Failure ClientConfig :=
  load clientOf?

end Lockstep.Settings
