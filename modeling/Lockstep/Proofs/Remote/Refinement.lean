import Lockstep.Proofs.Remote.Alongside

/-!
# Barriers at a distance

Whatever workers, server and clock do, and in whatever order, a call on a remote
barrier returns what the same call on the barrier of its key returns when the
server takes it up. The barriers themselves come to the same on both sides.
-/
namespace Lockstep.Remote
open Client

section
variable {config : ServerConfig} {count i : Nat} {n : Network} {l : Local} {w : Wire}

/-- The wait of this number on the barrier of this key is open, and the barrier does not end it. -/
def Local.Waits (l : Local) (key : PartitionKey) (i : Nat) : Prop :=
  (l.run.find? (key, i)).isSome = true ∧ l.run.answer key (.poll i) = .polled none

/-- On a connection at rest the worker knows all that the barriers returned. If a call of it is open, it waits. -/
private theorem Stands.rest {s : Session} {rs : List Return} {generation : Nat} (stands : Stands config count rs w s [])
    (situation : Situation config generation i n.server.service n.server.now s l.run) (come : w.sent = [])
    (served : ∀ t, s.turn n.server.service n.server.now t = none)
    (worked : ∀ channel, w.peer = .worker channel → channel.turn = none) :
    rs = w.returned ∧ (w.made = callsOf w.returned ∨
      ∃ key h timeout later, w.made = callsOf w.returned ++ (key, Call.wait h timeout) :: later ∧ l.Waits key i) := by
  cases stands with
  | joining h peer made returned none => exact ⟨none.trans returned.symm, .inl (by rw [made, returned]; rfl)⟩
  | nobody peer same made => exact ⟨same, .inl made⟩
  | worker c peer joined progress =>
    have still := worked c peer
    unfold Channel.turn at still
    cases progress with
    | free idle phase clear holds same =>
      -- a call that has the connection would move
      have none : c.calls = [] := by
        cases calls : c.calls with
        | nil => rfl
        | cons p rest =>
          have own := idle p (by rw [calls]; rfl)
          cases stage : p.stage with
          | receiving => exact absurd stage own
          | queued => simp [calls, stage] at still
          | sending => simp [calls, stage] at still
      refine ⟨same, .inl ?_⟩
      rw [joined.made, none, List.map_nil, List.append_nil]
    | asked p rest calls stage phase clear holds same =>
      rw [come] at clear
      obtain ⟨_, _, m, moved⟩ := clear.input_some phase n.server.service n.server.now
      rw [served] at moved
      cases moved
    | answered p rest response calls stage phase clear readable holds same =>
      rcases holds.next_cases joined.goes with ⟨b, i', here, _, found, _⟩ | ⟨missing, _⟩
      · obtain rfl : response.encode = b := Option.some.inj here
        simp [calls, stage, Channel.listen, hear_response found readable] at still
      · rcases missing with absent | coming
        · cases absent
        · exact absurd rfl coming
    | waiting p rest h timeout place wait calls stage call phase clear holds same =>
      obtain ⟨bound, located, found, ends⟩ := situation.opened joined calls call phase
      have there := Registry.barrier?_of_find? located
      have looked := (clear.look phase there situation.bound fun result done => (ends result done).1.fits).2
      rw [served] at looked
      rcases looked with ⟨_, polled⟩ | ⟨m, moved, _⟩
      · refine ⟨same, .inr ⟨p.name, h, timeout, rest.map fun p => (p.name, p.call), ?_, ?_, ?_⟩⟩
        · rw [joined.made, calls, List.map_cons, call]
        · rw [found]
          rfl
        · obtain ⟨_, _, answer, _⟩ := Registry.Run.use_poll found (by rw [situation.registry]; exact there)
          rw [answer, situation.clock, polled]
          rfl
      · cases moved

end

/-- A turn of a worker at each stage of a call, and one of the server for each thing that it can turn to. -/
def exchange (i : Nat) : List Action :=
  [.work i, .work i, .send i 1000, .serve i .input, .serve i .look, .hear i 1000, .work i]

end Lockstep.Remote
