import Lockstep.Text.Lowercase

namespace Lockstep

inductive RuntimeEnvironment where
  | dev | prod
  deriving DecidableEq, Repr

namespace RuntimeEnvironment

def name : RuntimeEnvironment → String
  | .dev => "dev"
  | .prod => "prod"

def shown : RuntimeEnvironment → String
  | .dev => "Dev"
  | .prod => "Prod"

/-- The message about a name that is none, in lower case. -/
def unsupported (name : String) : String :=
  name ++ " is not a supported environment. Use either `dev` or `prod`."

/-- Reads a name in any case. -/
def parse (text : String) : Except String RuntimeEnvironment :=
  let name := Text.lower text
  if name = RuntimeEnvironment.dev.name then .ok .dev
  else if name = RuntimeEnvironment.prod.name then .ok .prod
  else .error (unsupported name)

/-- The variable that names the environment. -/
def variableName : String := "APP_ENVIRONMENT"

/-- The environment that the variable names; development when it is not set. -/
def load (value : Option String) : Except String RuntimeEnvironment :=
  parse (value.getD "dev")

end RuntimeEnvironment
end Lockstep
