import Lockstep.Json.Record
import Lockstep.Settings.Rules
import Lockstep.Text.Blank
import Lockstep.Text.Quoted

namespace Lockstep
open Json

structure ClientConfig where
  /-- Host and port, as the server publishes them. -/
  address : String
  /-- The secret in base 64, as the server publishes it. -/
  secret : String
  /-- The time to connect and to be authenticated, in milliseconds. -/
  connectTimeout : Nat := 10000
  deriving DecidableEq, Repr

namespace ClientConfig

open Settings

/-- Which rules the settings break, in the order in which they are checked. -/
def rules (c : ClientConfig) : List (Bool × Violation) :=
  [(Text.isBlankText c.address, .badValue "address" "must not be empty"),
    (Text.isBlankText c.secret, .badValue "secret" "must not be empty"),
    (c.connectTimeout = 0, .badValue "connect_timeout_ms" "must be greater than 0")]

def validate (c : ClientConfig) : Except Violation Unit :=
  firstBroken c.rules

/-- The settings as they are shown for inspection. -/
def shown (c : ClientConfig) : String :=
  "ClientConfig \x7b address: " ++ Text.quoted c.address ++ ", secret: [REDACTED], connect_timeout_ms: " ++
    toString c.connectTimeout ++ " \x7d"

def fields : List String :=
  ["address", "secret", "connect_timeout_ms"]

def decode? (body : Bytes) : Option ClientConfig := do
  let [address, secret, connectTimeout] ← record? fields (← value? body) | none
  some {
    address := ← required? asText? address
    secret := ← required? asText? secret
    connectTimeout := ← defaulted? asNatural? 10000 connectTimeout }

end ClientConfig
end Lockstep
