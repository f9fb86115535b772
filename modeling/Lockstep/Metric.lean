import Lockstep.Fault

namespace Lockstep

inductive Metric where
  | connectionsAccepted
  | authenticationFailures
  | connectionErrors
  | barriersCreated
  | barrierReleases
  | barrierBreaks
  | partiesWaiting
  deriving DecidableEq, Repr

namespace Metric

/-- In the order in which they are registered. -/
def all : List Metric :=
  [.connectionsAccepted, .authenticationFailures, .connectionErrors, .barriersCreated, .barrierReleases,
    .barrierBreaks, .partiesWaiting]

def name : Metric → String
  | .connectionsAccepted => "rendezvous_connections_accepted_total"
  | .authenticationFailures => "rendezvous_authentication_failures_total"
  | .connectionErrors => "rendezvous_connection_errors_total"
  | .barriersCreated => "rendezvous_barriers_created_total"
  | .barrierReleases => "rendezvous_barrier_releases_total"
  | .barrierBreaks => "rendezvous_barrier_breaks_total"
  | .partiesWaiting => "rendezvous_parties_waiting"

/-- A gauge goes up and down, a counter only up. -/
def isGauge (m : Metric) : Bool :=
  m = .partiesWaiting

def description : Metric → String
  | .connectionsAccepted => "Total number of accepted client connections"
  | .authenticationFailures => "Total number of connections rejected because of a bad or missing shared secret"
  | .connectionErrors => "Total number of connections that ended with an error, labeled by error_kind"
  | .barriersCreated => "Total number of barriers created"
  | .barrierReleases => "Total number of barrier generations released"
  | .barrierBreaks => "Total number of barrier generations broken by timeout, abort, reset or abandonment"
  | .partiesWaiting => "Number of parties currently blocked in a barrier wait"

def unit : String := "count"

/-- The label that tells connection errors apart. -/
def errorLabel : String := "error_kind"

end Metric

structure Meter where
  accepted : Nat := 0
  rejected : Nat := 0
  /-- The kinds of the faults that ended connections. -/
  errors : List Fault.Kind := []
  created : Nat := 0
  releases : Nat := 0
  breaks : Nat := 0
  waiting : Int := 0
  deriving DecidableEq, Repr

namespace Meter

def add (a b : Meter) : Meter where
  accepted := a.accepted + b.accepted
  rejected := a.rejected + b.rejected
  errors := a.errors ++ b.errors
  created := a.created + b.created
  releases := a.releases + b.releases
  breaks := a.breaks + b.breaks
  waiting := a.waiting + b.waiting

instance : Add Meter := ⟨add⟩

theorem add_empty (a : Meter) : a + {} = a :=
  show a.add {} = a by simp [add]

theorem empty_add (a : Meter) : {} + a = a :=
  show add {} a = a by simp [add]

theorem add_assoc (a b c : Meter) : a + b + c = a + (b + c) :=
  show (a.add b).add c = a.add (b.add c) by simp [add, Nat.add_assoc, Int.add_assoc]

theorem add_right_comm (a c : Meter) {b : Meter} (none : b.errors = []) : a + b + c = a + c + b :=
  show (a.add b).add c = (a.add c).add b by simp [add, none, Nat.add_right_comm, Int.add_right_comm]

theorem waiting_add (j k : Int) : ({ waiting := j } : Meter) + { waiting := k } = { waiting := j + k } := rfl

/-- The metrics that changed, by the name and label under which they are reported. -/
def changes (m : Meter) : List (String × Int) :=
  let plain : List (String × Int) :=
    [(Metric.connectionsAccepted.name, m.accepted), (Metric.authenticationFailures.name, m.rejected),
      (Metric.barriersCreated.name, m.created), (Metric.barrierReleases.name, m.releases),
      (Metric.barrierBreaks.name, m.breaks), (Metric.partiesWaiting.name, m.waiting)]
  let labelled : List (String × Int) := Fault.kinds.map fun k =>
    (Metric.connectionErrors.name ++ "\x7b" ++ Metric.errorLabel ++ "=" ++ k.name ++ "\x7d", (m.errors.count k : Int))
  (plain ++ labelled).filter (·.2 ≠ 0)

end Meter
end Lockstep
