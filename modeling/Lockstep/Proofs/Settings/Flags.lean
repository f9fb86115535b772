import Lockstep.CommandLine
import Lockstep.Proofs.Settings.Variables

/-!
# Flags and variables

The settings of a server are made field by field: a flag that is given is the
value of its field, whatever the variables say about it, and every other field is
what the variables make of it, as if there were no flags (`flags_win`).
-/
namespace Lockstep.CommandLine
open Settings

/-- The field that a flag sets. -/
def Flag.key : Flag → String
  | .host => "host"
  | .port => "port"
  | .parties => "nprocs"
  | .waitTimeout => "wait_timeout_ms"
  | .policy => "abandon_policy"
  | .handshakeTimeout => "handshake_timeout_ms"
  | .metricsPort => "metrics_port"

theorem ok_of_bind {ε α β : Type} {x : Except ε α} {f : α → Except ε β} {b : β} (found : x >>= f = .ok b) :
    ∃ a, x = .ok a ∧ f a = .ok b := by
  cases x with
  | error e => cases found
  | ok a => exact ⟨a, rfl, found⟩

namespace Arguments

/-- The numbers of the flags are in the ranges that their fields have. -/
structure Fits (a : Arguments) : Prop where
  port : ∀ n, a.port = some n → n < 0x10000
  parties : ∀ n, a.parties = some n → n ≤ Value.maxNatural
  metricsPort : ∀ n, a.metricsPort = some n → n < 0x10000

variable {a a' : Arguments} {s value : String} {n : Nat} {flag : Flag}

private theorem fits_new : Fits {} :=
  ⟨nofun, nofun, nofun⟩

theorem le_of_number (read : number s = .ok n) : n ≤ Value.maxNatural := by
  unfold number at read
  split at read
  · rename_i found
    cases read
    simp only [naturalText?] at found
    split at found
    · cases found
    · split at found
      · cases found
        assumption
      · cases found
  · cases read

private theorem lt_of_portNumber (read : portNumber s = .ok n) : n < 0x10000 := by
  unfold portNumber at read
  split at read
  · split at read
    · cases read
      omega
    · cases read
  · cases read

private theorem Fits.set (fits : a.Fits) (set : a.set value flag = .ok a') : a'.Fits := by
  cases flag with
  | host =>
    cases set
    exact ⟨fits.port, fits.parties, fits.metricsPort⟩
  | policy =>
    simp only [Arguments.set] at set
    split at set
    · cases set
      exact ⟨fits.port, fits.parties, fits.metricsPort⟩
    · cases set
  | waitTimeout | handshakeTimeout =>
    obtain ⟨n, _, set⟩ := ok_of_bind set
    cases set
    exact ⟨fits.port, fits.parties, fits.metricsPort⟩
  | parties =>
    obtain ⟨n, read, set⟩ := ok_of_bind set
    cases set
    exact ⟨fits.port, fun m same => Option.some.inj same ▸ le_of_number read, fits.metricsPort⟩
  | port =>
    obtain ⟨n, read, set⟩ := ok_of_bind set
    cases set
    exact ⟨fun m same => Option.some.inj same ▸ lt_of_portNumber read, fits.parties, fits.metricsPort⟩
  | metricsPort =>
    obtain ⟨n, read, set⟩ := ok_of_bind set
    cases set
    exact ⟨fits.port, fits.parties, fun m same => Option.some.inj same ▸ lt_of_portNumber read⟩

end Arguments

namespace Parser

variable {p p' : Parser} {flag : Flag} {value : Option String} {argument : String}

private theorem fits_resolve (fits : p.arguments.Fits) (resolved : p.resolve = .ok p') : p'.arguments.Fits := by
  unfold resolve at resolved
  split at resolved
  · cases resolved
    exact fits
  · cases resolved
  · split at resolved
    · cases resolved
    · obtain ⟨a, set, there⟩ := ok_of_bind resolved
      cases there
      exact fits.set set

private theorem fits_takeFlag (fits : p.arguments.Fits) (taken : p.takeFlag flag value = .ok p') :
    p'.arguments.Fits := by
  obtain ⟨q, resolved, taken⟩ := ok_of_bind taken
  have fits' : q.arguments.Fits := fits_resolve fits resolved
  split at taken
  · exact fits_resolve (p := { q with pending := some (flag, value) }) fits' taken
  · cases taken
    exact fits'

theorem finishWith_ne_ok (u : Usage) : p.finishWith u ≠ .ok p' := by
  intro finished
  obtain ⟨_, _, impossible⟩ := ok_of_bind finished
  cases impossible

private theorem fits_takeLong {name : String} (fits : p.arguments.Fits) (taken : p.takeLong name value = .ok p') :
    p'.arguments.Fits := by
  unfold takeLong at taken
  split at taken
  · exact fits_takeFlag fits taken
  · split at taken
    · split at taken
      · cases taken
      · exact absurd taken (finishWith_ne_ok _)
    · cases taken

private theorem fits_takeShort {letters : List Char} (fits : p.arguments.Fits) (taken : p.takeShort letters = .ok p') :
    p'.arguments.Fits := by
  unfold takeShort at taken
  split at taken
  · cases taken
    exact fits
  · split at taken
    · exact fits_takeFlag fits taken
    · exact fits_takeFlag fits taken
    · exact fits_takeFlag fits taken
  · exact absurd taken (finishWith_ne_ok _)
  · exact absurd taken (finishWith_ne_ok _)
  · cases taken

private theorem fits_takePlain (fits : p.arguments.Fits) (taken : p.takePlain argument = .ok p') :
    p'.arguments.Fits := by
  unfold takePlain at taken
  split at taken
  · cases taken
    exact fits
  · cases taken

private theorem fits_take (fits : p.arguments.Fits) (taken : p.take argument = .ok p') : p'.arguments.Fits := by
  unfold take at taken
  split at taken
  · exact fits_takePlain fits taken
  · split at taken
    · cases taken
      exact fits
    · exact fits_takeLong fits taken
    · exact fits_takeShort fits taken
    · exact fits_takePlain fits taken

private theorem fits_takeAll {arguments : List String} (fits : p.arguments.Fits)
    (taken : arguments.foldlM take p = .ok p') : p'.arguments.Fits := by
  induction arguments generalizing p with
  | nil =>
    cases taken
    exact fits
  | cons argument arguments ih =>
    rw [List.foldlM_cons] at taken
    obtain ⟨q, first, rest⟩ := ok_of_bind taken
    exact ih (fits_take fits first) rest

end Parser

theorem fits_parse {arguments : List String} {a : Arguments} (parsed : parse arguments = .ok a) : a.Fits := by
  obtain ⟨p, taken, parsed⟩ := ok_of_bind parsed
  obtain ⟨q, resolved, parsed⟩ := ok_of_bind parsed
  cases parsed
  exact Parser.fits_resolve (Parser.fits_takeAll Arguments.fits_new taken) resolved

/-- Puts a value in an entry of the root table. -/
def put (tree : Value) (entry : String × Value) : Value :=
  Path.set entry.2 [.entry entry.1] tree

private theorem entry?_put (tree : Value) (key field : String) (value : Value) :
    Value.entry? (put tree (key, value)) field = if key = field then some value else tree.entry? field := by
  rw [put, Path.entry?_set]
  rfl

private theorem entry?_override {α : Type} (key field : String) (value : α → Value) (given : Option α) (tree : Value) :
    Value.entry? ((override key value given).foldl put tree) field =
      if key = field then (given.map value).or (tree.entry? field) else tree.entry? field := by
  cases given with
  | none => simp [override]
  | some x => simp [override, entry?_put]

private theorem places_of_keys {overrides : Overrides}
    (keys : ∀ entry ∈ overrides, Path.parse? entry.1 = some [.entry entry.1]) :
    places overrides = .ok (overrides.map fun entry => ([.entry entry.1], entry.2)) := by
  induction overrides with
  | nil => rfl
  | cons entry overrides ih =>
    have first := keys entry (List.mem_cons_self ..)
    have others := ih fun e member => keys e (List.mem_cons_of_mem _ member)
    rw [places] at others
    rw [places, List.mapM_cons, others]
    simp [first]
    rfl

namespace Arguments

variable {a : Arguments}

/-- The value that a flag puts in its field. -/
def value? (a : Arguments) : Flag → Option Value
  | .host => a.host.map .text
  | .port => a.port.map fun n : Nat => .integer n
  | .parties => a.parties.map fun n : Nat => .integer n
  | .waitTimeout => (a.waitTimeout.map milliseconds).map fun n : Nat => .integer n
  | .policy => a.policy.map fun p => .text p.name
  | .handshakeTimeout => (a.handshakeTimeout.map milliseconds).map fun n : Nat => .integer n
  | .metricsPort => a.metricsPort.map fun n : Nat => .integer n

private theorem merge_overrides (a : Arguments) (entries : List (String × String)) :
    merge entries a.overrides = .ok (a.overrides.foldl put (ofVariables entries)) := by
  have path (flag : Flag) : Path.parse? flag.key = some [.entry flag.key] := by cases flag <;> decide
  have each {α : Type} (flag : Flag) (value : α → Value) (given : Option α) :
      ∀ entry ∈ override flag.key value given, Path.parse? entry.1 = some [.entry entry.1] := by
    intro entry member
    cases given with
    | none => cases member
    | some x =>
      obtain rfl := List.mem_singleton.mp member
      exact path flag
  have keys : ∀ entry ∈ a.overrides, Path.parse? entry.1 = some [.entry entry.1] := by
    simp only [overrides, overrideNumber, List.mem_append]
    rintro entry ((((((host | port) | parties) | waitTimeout) | policy) | handshakeTimeout) | metricsPort)
    · exact each .host _ _ entry host
    · exact each .port _ _ entry port
    · exact each .parties _ _ entry parties
    · exact each .waitTimeout _ _ entry waitTimeout
    · exact each .policy _ _ entry policy
    · exact each .handshakeTimeout _ _ entry handshakeTimeout
    · exact each .metricsPort _ _ entry metricsPort
  rw [merge, places_of_keys keys]
  simp only [bind, Except.bind, pure, Except.pure, List.foldl_map]
  rfl

/-- In the field of a flag stands what the flag puts there, and otherwise what was there before. -/
private theorem entry?_overrides (a : Arguments) (tree : Value) (flag : Flag) :
    Value.entry? (a.overrides.foldl put tree) flag.key = (a.value? flag).or (tree.entry? flag.key) := by
  cases flag <;>
    simp [overrides, overrideNumber, List.foldl_append, entry?_override, Flag.key, value?, Function.comp_def]

end Arguments

section Fields

variable {α : Type} {read? : Value → Option α} {tree below : Value} {name : String} {given : Option Value}
  {x : Option α}

private theorem need?_or (found : tree.entry? name = given.or (below.entry? name))
    (reads : given.map read? = x.map some) : need? read? tree name = x.or (need? read? below name) := by
  cases given <;> cases x <;> simp_all [need?]

private theorem default?_or (d : α) (found : tree.entry? name = given.or (below.entry? name))
    (reads : given.map read? = x.map some) : default? read? d tree name = x.or (default? read? d below name) := by
  cases given <;> cases x <;> simp_all [default?]

private theorem maybe?_or (found : tree.entry? name = given.or (below.entry? name))
    (reads : given.map read? = x.map some) (present : given ≠ some .absent) :
    maybe? read? tree name = (x.map some).or (maybe? read? below name) := by
  cases given with
  | none =>
    cases x <;> simp_all [maybe?]
  | some v =>
    cases x with
    | none => simp at reads
    | some y =>
      have value : v ≠ .absent := by simpa using present
      have there : read? v = some y := by simpa using reads
      rw [maybe?, found]
      cases v <;> simp_all

private theorem need?_congr (read? : Value → Option α) (same : tree.entry? name = below.entry? name) :
    need? read? tree name = need? read? below name := by
  rw [need?, need?, same]

private theorem default?_congr (read? : Value → Option α) (d : α) (same : tree.entry? name = below.entry? name) :
    default? read? d tree name = default? read? d below name := by
  rw [default?, default?, same]

private theorem maybe?_congr (read? : Value → Option α) (same : tree.entry? name = below.entry? name) :
    maybe? read? tree name = maybe? read? below name := by
  rw [maybe?, maybe?, same]

end Fields

/-- The settings that flags and the tree of the variables make, field by field: the flag if it is given, and
    otherwise what the variables say. -/
def Arguments.layered? (a : Arguments) (tree : Value) : Option ServerConfig := do
  some {
    host := ← a.host.or (default? Value.asText? "0.0.0.0" tree "host")
    port := ← a.port.or (default? Value.asPort? 50000 tree "port")
    parties := ← a.parties.or (need? Value.asNatural? tree "nprocs")
    waitTimeout := ← ((a.waitTimeout.map milliseconds).map some).or
      (maybe? Value.asNatural? tree "wait_timeout_ms")
    policy := ← a.policy.or (default? Value.asPolicy? .breakGeneration tree "abandon_policy")
    handshakeTimeout := ← (a.handshakeTimeout.map milliseconds).or
      (default? Value.asNatural? 10000 tree "handshake_timeout_ms")
    metricsPort := ← (a.metricsPort.map some).or (maybe? Value.asPort? tree "metrics_port") }

private theorem asNatural?_integer {n : Nat} (fits : n ≤ Value.maxNatural) : (Value.integer n).asNatural? = some n := by
  simp [Value.asNatural?, fits]

theorem asPort?_integer {n : Nat} (fits : n < 0x10000) : (Value.integer n).asPort? = some n := by
  have : n ≤ Value.maxNatural := by
    unfold Value.maxNatural
    omega
  simp [Value.asPort?, asNatural?_integer this, fits]

private theorem milliseconds_le (n : Nat) : milliseconds n ≤ Value.maxNatural :=
  Nat.min_le_right ..

private theorem asPolicy?_name (p : AbandonPolicy) : (Value.text p.name).asPolicy? = some p := by
  cases p <;> decide +kernel

private theorem serverOf?_overrides {a : Arguments} (fits : a.Fits) (tree : Value) :
    serverOf? (a.overrides.foldl put tree) = a.layered? tree := by
  have found := a.entry?_overrides tree
  have given {α : Type} {x : Option α} {value : α → Value} {read? : Value → Option α}
      (reads : ∀ y, x = some y → read? (value y) = some y) : (x.map value).map read? = x.map some := by
    cases x with
    | none => rfl
    | some y => simp [reads y rfl]
  have present {x : Option Nat} : (x.map fun n : Nat => Value.integer n) ≠ some .absent := by
    cases x <;> simp
  have bounded (x : Option Nat) : ∀ n, x.map milliseconds = some n → n ≤ Value.maxNatural := by
    intro n same
    obtain ⟨seconds, _, rfl⟩ := Option.map_eq_some_iff.mp same
    exact milliseconds_le seconds
  have host := default?_or "0.0.0.0" (found .host) (given fun s _ => show (Value.text s).asText? = some s from rfl)
  have port := default?_or 50000 (found .port) (given fun n same => asPort?_integer (fits.port n same))
  have parties := need?_or (found .parties) (given fun n same => asNatural?_integer (fits.parties n same))
  have waitTimeout := maybe?_or (found .waitTimeout) (given fun n same => asNatural?_integer (bounded _ n same)) present
  have policy := default?_or .breakGeneration (found .policy) (given fun p _ => asPolicy?_name p)
  have handshakeTimeout := default?_or 10000 (found .handshakeTimeout)
    (given fun n same => asNatural?_integer (bounded _ n same))
  have metricsPort := maybe?_or (found .metricsPort) (given fun n same => asPort?_integer (fits.metricsPort n same))
    present
  simp only [Flag.key] at host port parties waitTimeout policy handshakeTimeout metricsPort
  rw [serverOf?, Arguments.layered?, host, port, parties, waitTimeout, policy, handshakeTimeout, metricsPort]

theorem loadServer_overrides {a : Arguments} (fits : a.Fits) (entries : List (String × String)) :
    loadServer entries a.overrides =
      ((a.layered? (ofVariables entries)).map .ok).getD (.error Settings.Failure.unsuitable) := by
  simp only [loadServer, load, a.merge_overrides entries, bind, Except.bind, serverOf?_overrides fits]
  cases a.layered? (ofVariables entries) <;> rfl

/-- Only the fields whose flags are not given are looked up among the variables. -/
theorem layered?_congr {a : Arguments} {tree tree' : Value}
    (same : ∀ flag, a.has flag = false → tree.entry? flag.key = tree'.entry? flag.key) :
    a.layered? tree = a.layered? tree' := by
  have field {α : Type} {x : Option α} {f : Value → String → Option α} (flag : Flag) (given : x.isSome = a.has flag)
      (reads : tree.entry? flag.key = tree'.entry? flag.key → f tree flag.key = f tree' flag.key) :
      x.or (f tree flag.key) = x.or (f tree' flag.key) := by
    cases x with
    | none => exact reads (same flag given.symm)
    | some y => rfl
  have host := field .host (x := a.host) rfl (default?_congr Value.asText? "0.0.0.0")
  have port := field .port (x := a.port) rfl (default?_congr Value.asPort? 50000)
  have parties := field .parties (x := a.parties) rfl (need?_congr Value.asNatural?)
  have waitTimeout := field .waitTimeout (x := (a.waitTimeout.map milliseconds).map some) (by simp [Arguments.has])
    (maybe?_congr Value.asNatural?)
  have policy := field .policy (x := a.policy) rfl (default?_congr Value.asPolicy? .breakGeneration)
  have handshakeTimeout := field .handshakeTimeout (x := a.handshakeTimeout.map milliseconds) (by simp [Arguments.has])
    (default?_congr Value.asNatural? 10000)
  have metricsPort := field .metricsPort (x := a.metricsPort.map some) (by simp [Arguments.has])
    (maybe?_congr Value.asPort?)
  simp only [Flag.key] at host port parties waitTimeout policy handshakeTimeout metricsPort
  rw [Arguments.layered?, host, port, parties, waitTimeout, policy, handshakeTimeout, metricsPort, Arguments.layered?]

/-- Settings in which every flag that is given is the value of its field. -/
structure Arguments.Hold (a : Arguments) (c : ServerConfig) : Prop where
  host : ∀ host, a.host = some host → c.host = host
  port : ∀ port, a.port = some port → c.port = port
  parties : ∀ parties, a.parties = some parties → c.parties = parties
  /-- Seconds in milliseconds, or the largest number of 64 bits if this is more. -/
  waitTimeout : ∀ seconds, a.waitTimeout = some seconds → c.waitTimeout = some (min (seconds * 1000) (UInt64.size - 1))
  policy : ∀ policy, a.policy = some policy → c.policy = policy
  handshakeTimeout : ∀ seconds, a.handshakeTimeout = some seconds →
    c.handshakeTimeout = min (seconds * 1000) (UInt64.size - 1)
  metricsPort : ∀ port, a.metricsPort = some port → c.metricsPort = some port

theorem hold_of_layered {a : Arguments} {tree : Value} {c : ServerConfig} (found : a.layered? tree = some c) :
    a.Hold c := by
  have first {α : Type} {x y : Option α} {z w : α} (found : x.or y = some z) (given : x = some w) : z = w := by
    rw [given, Option.some_or] at found
    exact (Option.some.inj found).symm
  simp only [Arguments.layered?, Option.bind_eq_bind, Option.bind_eq_some_iff, Option.some.injEq] at found
  obtain ⟨host, host', port, port', parties, parties', waitTimeout, waitTimeout', policy, policy', handshakeTimeout,
    handshakeTimeout', metricsPort, metricsPort', rfl⟩ := found
  exact {
    host := fun _ given => first host' given
    port := fun _ given => first port' given
    parties := fun _ given => first parties' given
    waitTimeout := fun _ given => first waitTimeout' (by rw [given]; rfl)
    policy := fun _ given => first policy' given
    handshakeTimeout := fun _ given => first handshakeTimeout' (by rw [given]; rfl)
    metricsPort := fun _ given => first metricsPort' (by rw [given]; rfl) }

/-- Flags win over variables, and are all that is known about their fields. -/
structure FlagsWin (a : Arguments) : Prop where
  given : ∀ entries c, loadServer entries a.overrides = .ok c → a.Hold c
  /-- Variables may come, go and change in every way, as long as those of the fields without a flag stay. -/
  shadowed : ∀ entries entries',
    (∀ flag : Flag, a.has flag = false → settersOf flag.key entries = settersOf flag.key entries') →
    loadServer entries a.overrides = loadServer entries' a.overrides ∧ settings a entries = settings a entries'
  /-- A field without a flag is what the variables alone say. -/
  absent : ∀ entries, loadServer entries a.overrides =
    ((a.layered? (ofVariables entries)).map .ok).getD (.error .unsuitable)
  checked : ∀ entries c, settings a entries = .ok c → loadServer entries a.overrides = .ok c

theorem flags_win {arguments : List String} {a : Arguments} (parsed : parse arguments = .ok a) : FlagsWin a where
  given entries c loaded := by
    rw [loadServer_overrides (fits_parse parsed)] at loaded
    cases found : a.layered? (ofVariables entries) with
    | none => simp [found] at loaded
    | some c' =>
      obtain rfl : c' = c := by simpa [found] using loaded
      exact hold_of_layered found
  shadowed entries entries' same := by
    have loaded : loadServer entries a.overrides = loadServer entries' a.overrides := by
      rw [loadServer_overrides (fits_parse parsed), loadServer_overrides (fits_parse parsed)]
      rw [layered?_congr fun flag absent => ?_]
      rw [entry?_ofVariables, same flag absent, ← entry?_ofVariables]
    exact ⟨loaded, by rw [settings, settings, loaded]⟩
  absent := loadServer_overrides (fits_parse parsed)
  checked entries c accepted := by
    unfold settings at accepted
    split at accepted
    · cases accepted
    · split at accepted
      · cases accepted
      · cases accepted
        assumption

/-- Two fields have flags, and nothing that the variables say about them counts. The seconds are too many for
    milliseconds of 64 bits. -/
theorem flags_win_saturated :
    let arguments := ["--nprocs", "3", "--wait-timeout-secs=18446744073709551615"]
    let a : Arguments := { parties := some 3, waitTimeout := some 18446744073709551615 }
    let hostile := [("APP_NPROCS", "none"), ("app_nprocs__x", "true")]
    let c : ServerConfig := { host := "h", parties := 3, waitTimeout := some 18446744073709551615 }
    parse arguments = .ok a ∧ settings a (hostile ++ [("APP_HOST", "h")]) = .ok c ∧
      settings a (hostile ++ [("APP_HOST", "h")]) = settings a [("APP_HOST", "h")] := by
  intro arguments a hostile c
  have parsed : parse arguments = .ok a := rfl
  have names : hostile.map (fun entry => fieldOfVariable? entry.1) = [some "nprocs", some "nprocs"] := by
    decide +kernel
  have shadowed := (flags_win parsed).shadowed (hostile ++ [("APP_HOST", "h")]) [("APP_HOST", "h")] <| by
    intro flag absent
    obtain ⟨first, second⟩ : fieldOfVariable? "APP_NPROCS" = some "nprocs" ∧
        fieldOfVariable? "app_nprocs__x" = some "nprocs" := by simpa [hostile] using names
    have other : flag.key ≠ "nprocs" := by
      cases flag with
      | parties => cases absent
      | host | port | waitTimeout | policy | handshakeTimeout | metricsPort => decide
    simp [settersOf, hostile, first, second, other.symm]
  have loaded : (settings a [("APP_HOST", "h")]).toOption = some c := by decide +kernel
  refine ⟨parsed, ?_, shadowed.2⟩
  rw [shadowed.2]
  cases found : settings a [("APP_HOST", "h")] with
  | error failure => simp [found, Except.toOption] at loaded
  | ok c' => simpa [found, Except.toOption] using loaded

end Lockstep.CommandLine
