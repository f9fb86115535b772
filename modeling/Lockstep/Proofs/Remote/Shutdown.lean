import Lockstep.Proofs.Remote.Alongside
import Lockstep.Proofs.Server.WindingDown

namespace Lockstep.Remote
open Client

variable {config : ServerConfig} {count i : Nat} {n : Network} {l : Local} {w : Wire} {rs : List Return} {s : Session}
  {down : Bytes}

/-- While a worker waits nothing is put aside. -/
private theorem Stands.backlog (stands : Stands config count rs w s down) {h : Handle} {place : Registry.Place}
    {wait : Barrier.Wait} (waiting : s.phase = .waiting h place wait) : s.backlog = [] := by
  cases stands with
  | joining _ _ _ _ _ _ joining =>
    cases joining with
    | asking _ _ phase | welcomed phase | rejected _ _ phase => simp [waiting] at phase
  | worker c peer joined progress =>
    cases progress with
    | free _ _ clear | asked _ _ _ _ _ clear | answered _ _ _ _ _ _ clear | waiting _ _ _ _ _ _ _ _ _ _ clear =>
      exact clear.backlog
  | nobody peer same made left =>
    cases left with
    | asking _ _ phase | idle phase | ended _ phase => simp [waiting] at phase

private theorem Alongside.nothingAside (alongside : Alongside config count n l) (i : Nat) :
    n.server.NothingAside i := by
  intro line _ _ _ found waiting
  obtain ⟨w, wire⟩ := alongside.wire_of_line found
  exact (alongside.stands wire found).2.backlog waiting

/-- The server does this by itself, or others ask to be accepted. -/
def ByItself : Server.Operation → Prop
  | .accept | .stop | .cut _ | .turn _ _ => True
  | _ => False

/-- From any state at rest to which a server and its workers come, a shutdown releases nobody, whatever the server does
    until all connections are cut off. -/
theorem shutdown_of_workers (config : ServerConfig) (secret : Secret) (address : Address) (complaint : Bytes → String)
    (actions : List Action) (positive : 0 < config.parties) (parties : config.parties ≤ Json.maxNatural)
    (fits : ∀ a ∈ actions, a.fits = true) (counted : actions.length ≤ Json.maxNatural) :
    let server := ((Network.start config secret address complaint).alongside (.start config) actions).1.server
    server.AtRest → ∀ after : List Server.Operation, (∀ op ∈ after, ByItself op) →
      (∀ i < server.lines.size, .cut i ∈ after) →
      Server.ShutDown config.policy server (server.run (.stop :: after)) := by
  intro server rest after own all
  have alongside := (Alongside.start config secret address complaint).run positive parties fits (by omega)
  obtain ⟨secret', address', complaint', ops, (reached : server = _)⟩ := alongside.reached
  have resting : server.Resting := by
    rw [reached] at rest ⊢
    exact Server.resting_of_run positive secret' address' complaint' ops rest
  have policy : server.service.registry.options.policy = config.policy := by
    rw [reached, (Server.start_turned config secret' address' complaint' ops).more.options]
    rfl
  rw [← policy]
  refine resting.shutDown (fun op member => ?_) all
  have does := own op member
  cases op with
  | accept | stop | cut _ => trivial
  | turn i t =>
    cases t with
    | look => trivial
    | input => exact alongside.nothingAside i
  | receive _ _ | halfClose _ | close _ | advance _ => exact does.elim

end Lockstep.Remote
