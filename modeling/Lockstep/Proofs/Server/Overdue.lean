import Lockstep.Proofs.Server.Handshake
import Lockstep.Proofs.Server.Pipelining
import Lockstep.Proofs.Server.WindingDown

/-!
# Connections that do not show the secret

A connection has until its deadline to show the secret, and the deadline is
fixed when its session first runs. Whatever its peer has sent by then, and
however, if it is no whole frame the peer is told that it is rejected, and
nothing else.
-/
namespace Lockstep

namespace Session

variable {service : Service} {now : Nat} {s : Session} {t : Turn} {m : Moved} {deadline : Option Nat}

end Session

namespace Server

variable {s : Server} {i : Nat} {line : Line} {h : List Event} {ops before after : List Operation} {op : Operation}

/-- This is where the connection was accepted. -/
structure Accepted (s : Server) (i : Nat) (ops before after : List Operation) : Prop where
  split : ops = before ++ .accept :: after
  going : (s.run before).running = true
  number : (s.run before).lines.size = i

private theorem Accepted.fresh (accepted : s.Accepted i ops before after) :
    ((s.run before).perform .accept).lines[i]? = some { session := .new } := by
  rw [perform_accept accepted.going, Array.getElem?_push, if_pos accepted.number.symm]

/-- This is where the session first ran, and found no first frame. -/
structure Began (s : Server) (i : Nat) (ops first rest : List Operation) : Prop where
  split : ops = first ++ .turn i .look :: rest
  fresh : ∃ line, (s.run first).lines[i]? = some line ∧ line.session.phase = .greeting none

private theorem Began.snoc {first rest : List Operation} (began : s.Began i ops first rest) (op : Operation) :
    s.Began i (ops ++ [op]) first (rest ++ [op]) :=
  ⟨by rw [began.split]; simp, began.fresh⟩

/-- All along, the peer does not close the connection, and it is not cut off. -/
structure Stays (s : Server) (i : Nat) (ops : List Operation) : Prop where
  halfClose : .halfClose i ∉ ops
  close : .close i ∉ ops
  uncut : ∀ before after, ops = before ++ .cut i :: after → (s.run before).running = true

private theorem Stays.tail (stays : s.Stays i (op :: ops)) : (s.perform op).Stays i ops where
  halfClose := fun member => stays.halfClose (List.mem_cons_of_mem _ member)
  close := fun member => stays.close (List.mem_cons_of_mem _ member)
  uncut := fun before after same => stays.uncut (op :: before) after (by rw [same]; rfl)

end Server
end Lockstep
