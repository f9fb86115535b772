/-!
# Rules for settings

Settings that could be read may still make no sense, alone or together.
-/
namespace Lockstep.Settings

inductive Violation where
  /-- A field is outside of its range. -/
  | badValue (field constraint : String)
  /-- Two fields have values that exclude each other. -/
  | conflict (first second : String)
  deriving DecidableEq, Repr

def Violation.message : Violation → String
  | .badValue field constraint => "invalid value for `" ++ field ++ "`: " ++ constraint
  | .conflict first second => "`" ++ first ++ "` and `" ++ second ++ "` must differ"

def firstBroken (rules : List (Bool × Violation)) : Except Violation Unit :=
  match rules.find? (·.1) with
  | some (_, v) => .error v
  | none => .ok ()

end Lockstep.Settings
