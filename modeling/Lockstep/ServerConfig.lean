import Lockstep.Barrier
import Lockstep.Json.Printer
import Lockstep.Json.Record
import Lockstep.Settings.Rules

/-!
# The settings of a server

All barriers of a server have the same number of parties, so the workers of one
run need exactly one server.
-/
namespace Lockstep
open Json

structure ServerConfig where
  host : String := "0.0.0.0"
  /-- With port 0 any free one is taken. -/
  port : Nat := 50000
  parties : Nat
  /-- The timeout of waits that bring none, in milliseconds. -/
  waitTimeout : Option Nat := none
  policy : AbandonPolicy := .breakGeneration
  /-- The time to show the secret, in milliseconds. -/
  handshakeTimeout : Nat := 10000
  metricsPort : Option Nat := none
  deriving DecidableEq, Repr

namespace ServerConfig

open Settings

/-- Which rules the settings break, in the order in which they are checked. -/
def rules (c : ServerConfig) : List (Bool × Violation) :=
  [(c.parties = 0, .badValue "nprocs" "must be greater than 0"),
    (c.handshakeTimeout = 0, .badValue "handshake_timeout_ms" "must be greater than 0"),
    (c.waitTimeout = some 0, .badValue "wait_timeout_ms" "must be greater than 0 when set"),
    (c.port ≠ 0 ∧ c.metricsPort = some c.port, .conflict "port" "metrics_port")]

def validate (c : ServerConfig) : Except Violation Unit :=
  firstBroken c.rules

def bindAddress (c : ServerConfig) : String :=
  c.host ++ ":" ++ toString c.port

def barrierOptions (c : ServerConfig) : Barrier.Options :=
  ⟨c.parties, c.policy⟩

def fields : List String :=
  ["host", "port", "nprocs", "wait_timeout_ms", "abandon_policy", "handshake_timeout_ms", "metrics_port"]

def writtenOption : Option Nat → String
  | none => "null"
  | some n => Print.natural n

def written (c : ServerConfig) : String :=
  Print.object [("host", Print.text c.host), ("port", Print.natural c.port), ("nprocs", Print.natural c.parties),
    ("wait_timeout_ms", writtenOption c.waitTimeout), ("abandon_policy", Print.text c.policy.name),
    ("handshake_timeout_ms", Print.natural c.handshakeTimeout), ("metrics_port", writtenOption c.metricsPort)]

def ofJson? (v : Json) : Option ServerConfig := do
  let [host, port, parties, waitTimeout, policy, handshakeTimeout, metricsPort] ← record? fields v | none
  some {
    host := ← defaulted? asText? "0.0.0.0" host
    port := ← defaulted? asPort? 50000 port
    parties := ← required? asNatural? parties
    waitTimeout := ← optional? asNatural? waitTimeout
    policy := ← defaulted? AbandonPolicy.ofJson? .breakGeneration policy
    handshakeTimeout := ← defaulted? asNatural? 10000 handshakeTimeout
    metricsPort := ← optional? asPort? metricsPort }

def decode? (body : Bytes) : Option ServerConfig :=
  (value? body).bind ofJson?

end ServerConfig
end Lockstep
