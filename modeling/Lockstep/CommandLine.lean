import Lockstep.Report
import Lockstep.Settings.Load

/-!
# The command line of a server

Every flag can also be given as a variable of the environment; flags win. A flag
takes one value, after an equals sign or as the next argument, and may be given
once. Timeouts are given in seconds here and in milliseconds there.
-/
namespace Lockstep.CommandLine

inductive Flag where
  | host | port | parties | waitTimeout | policy | handshakeTimeout | metricsPort
  deriving DecidableEq, Repr

def Flag.all : List Flag :=
  [.host, .port, .parties, .waitTimeout, .policy, .handshakeTimeout, .metricsPort]

def Flag.name : Flag → String
  | .host => "host"
  | .port => "port"
  | .parties => "nprocs"
  | .waitTimeout => "wait-timeout-secs"
  | .policy => "abandon-policy"
  | .handshakeTimeout => "handshake-timeout-secs"
  | .metricsPort => "metrics-port"

/-- Why a command line is not carried out. -/
inductive Usage where
  | unknownArgument
  /-- A value is missing, or none of those that can be chosen. -/
  | invalidValue
  /-- A value is no number, or too large. -/
  | valueValidation
  | argumentConflict
  /-- A value is given to a flag that takes none. -/
  | tooManyValues
  | displayHelp
  | displayVersion
  deriving DecidableEq, Repr

def Usage.name : Usage → String
  | .unknownArgument => "UnknownArgument"
  | .invalidValue => "InvalidValue"
  | .valueValidation => "ValueValidation"
  | .argumentConflict => "ArgumentConflict"
  | .tooManyValues => "TooManyValues"
  | .displayHelp => "DisplayHelp"
  | .displayVersion => "DisplayVersion"

structure Arguments where
  host : Option String := none
  port : Option Nat := none
  parties : Option Nat := none
  waitTimeout : Option Nat := none
  policy : Option AbandonPolicy := none
  handshakeTimeout : Option Nat := none
  metricsPort : Option Nat := none
  deriving DecidableEq, Repr

namespace Arguments

def has (a : Arguments) : Flag → Bool
  | .host => a.host.isSome
  | .port => a.port.isSome
  | .parties => a.parties.isSome
  | .waitTimeout => a.waitTimeout.isSome
  | .policy => a.policy.isSome
  | .handshakeTimeout => a.handshakeTimeout.isSome
  | .metricsPort => a.metricsPort.isSome

def number (s : String) : Except Usage Nat :=
  match naturalText? Settings.Value.maxNatural s with
  | some n => .ok n
  | none => .error .valueValidation

/-- A port number; minus zero is one too. -/
def portNumber (s : String) : Except Usage Nat :=
  match integerText? s with
  | some n => if 0 ≤ n ∧ n < 0x10000 then .ok n.toNat else .error .valueValidation
  | none => .error .valueValidation

def set (a : Arguments) (value : String) : Flag → Except Usage Arguments
  | .host => .ok { a with host := some value }
  | .port => do return { a with port := some (← portNumber value) }
  | .parties => do return { a with parties := some (← number value) }
  | .waitTimeout => do return { a with waitTimeout := some (← number value) }
  | .policy =>
    match AbandonPolicy.ofName? value with
    | some p => .ok { a with policy := some p }
    | none => .error .invalidValue
  | .handshakeTimeout => do return { a with handshakeTimeout := some (← number value) }
  | .metricsPort => do return { a with metricsPort := some (← portNumber value) }

end Arguments

/-- A command line that has been read up to some argument. -/
structure Parser where
  arguments : Arguments := {}
  /-- The last flag, which is not taken in yet, and its value if it has one. -/
  pending : Option (Flag × Option String) := none
  /-- Two dashes alone stood before: no flags follow. -/
  trailing : Bool := false
  deriving DecidableEq, Repr

/-- What an argument that starts with a dash says. -/
inductive Dashed where
  /-- Two dashes alone. -/
  | escape
  /-- A flag with two dashes, and the value after its equals sign. -/
  | long (name : String) (value : Option String)
  /-- Letters after one dash. -/
  | short (letters : List Char)
  | plain
  deriving DecidableEq, Repr

/-- The text before the first equals sign, and after it. -/
def splitEquals (s : List Char) : String × Option String :=
  let name := s.takeWhile (· ≠ '=')
  match s.dropWhile (· ≠ '=') with
  | [] => (String.ofList name, none)
  | _ :: value => (String.ofList name, some (String.ofList value))

def dashed (argument : String) : Dashed :=
  match argument.toList with
  | ['-', '-'] => .escape
  | '-' :: '-' :: rest =>
    let (name, value) := splitEquals rest
    .long name value
  | '-' :: c :: rest => .short (c :: rest)
  | _ => .plain

namespace Parser

/-- Takes the pending flag in. -/
def resolve (p : Parser) : Except Usage Parser :=
  match p.pending with
  | none => .ok p
  | some (_, none) => .error .invalidValue
  | some (f, some value) =>
    if p.arguments.has f then .error .argumentConflict
    else do return { p with arguments := ← p.arguments.set value f, pending := none }

/-- A flag with the value that came with it. -/
def takeFlag (p : Parser) (f : Flag) (value : Option String) : Except Usage Parser := do
  let p ← p.resolve
  let p := { p with pending := some (f, value) }
  if value.isSome then p.resolve else return p

/-- A flag that takes no value and ends the command line. -/
def finishWith (p : Parser) (u : Usage) : Except Usage Parser := do
  let _ ← p.resolve
  .error u

def takeLong (p : Parser) (name : String) (value : Option String) : Except Usage Parser :=
  match Flag.all.find? (·.name = name) with
  | some f => p.takeFlag f value
  | none =>
    if name = "help" ∨ name = "version" then
      if value.isSome then .error .tooManyValues
      else p.finishWith (if name = "help" then .displayHelp else .displayVersion)
    else .error .unknownArgument

/-- Letters after one dash: the letter of a flag takes the rest as its value. -/
def takeShort (p : Parser) : List Char → Except Usage Parser
  | [] => .ok p
  | 'p' :: rest =>
    match rest with
    | [] => p.takeFlag .port none
    | '=' :: value => p.takeFlag .port (some (String.ofList value))
    | value => p.takeFlag .port (some (String.ofList value))
  | 'h' :: _ => p.finishWith .displayHelp
  | 'V' :: _ => p.finishWith .displayVersion
  | _ => .error .unknownArgument

/-- An argument that is no flag: the value of the flag before it, if that has none. -/
def takePlain (p : Parser) (argument : String) : Except Usage Parser :=
  match p.trailing, p.pending with
  | false, some (f, none) => .ok { p with pending := some (f, some argument) }
  | _, _ => .error .unknownArgument

def take (p : Parser) (argument : String) : Except Usage Parser :=
  if p.trailing then p.takePlain argument
  else match dashed argument with
    | .escape => .ok { p with trailing := true }
    | .long name value => p.takeLong name value
    | .short letters => p.takeShort letters
    | .plain => p.takePlain argument

end Parser

def parse (arguments : List String) : Except Usage Arguments := do
  let p ← arguments.foldlM Parser.take {}
  return (← p.resolve).arguments

/-- Seconds in milliseconds; what is too large stops at the largest number of 64 bits. -/
def milliseconds (seconds : Nat) : Nat :=
  min (seconds * 1000) Settings.Value.maxNatural

/-- A flag that was given, as an override. -/
def override {α : Type} (key : String) (value : α → Settings.Value) : Option α → Settings.Overrides
  | none => []
  | some a => [(key, value a)]

def overrideNumber (key : String) : Option Nat → Settings.Overrides :=
  override key fun n => .integer n

/-- The overrides that the flags make. -/
def Arguments.overrides (a : Arguments) : Settings.Overrides :=
  override "host" .text a.host ++ overrideNumber "port" a.port ++ overrideNumber "nprocs" a.parties ++
    overrideNumber "wait_timeout_ms" (a.waitTimeout.map milliseconds) ++
    override "abandon_policy" (fun p => .text p.name) a.policy ++
    overrideNumber "handshake_timeout_ms" (a.handshakeTimeout.map milliseconds) ++
    overrideNumber "metrics_port" a.metricsPort

/-- Why a server has no settings. -/
inductive Failure where
  | load (failure : Settings.Failure)
  | invalid (violation : Settings.Violation)
  deriving DecidableEq, Repr

/-- The settings that variables and flags make, if they make sense. -/
def settings (a : Arguments) (entries : List (String × String)) : Except Failure ServerConfig :=
  match Settings.loadServer entries a.overrides with
  | .error e => .error (.load e)
  | .ok c => match c.validate with
    | .error v => .error (.invalid v)
    | .ok () => .ok c

/-- What the terminal is told about settings that make no sense. -/
def faultOf (v : Settings.Violation) : ServerFault :=
  .settings v.message []

end Lockstep.CommandLine
