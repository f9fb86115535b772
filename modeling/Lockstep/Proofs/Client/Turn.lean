import Lockstep.Client
import Lockstep.Proofs.Frame.Stream

namespace Lockstep.Client

section
variable {i j : Frame.Inlet} {body : Bytes} {response : Response} {failure : Frame.Failure}

theorem hear_readable (found : i.next = (.frame body, j)) (read : Response.decode? body = some response) :
    hear i = (.response response, j) := by
  simp [hear, found, read]

private theorem hear_unreadable (found : i.next = (.frame body, j)) (read : Response.decode? body = none) :
    hear i = (.fault unreadable, j) := by
  simp [hear, found, read]

theorem hear_failed (found : i.next = (.failed failure, j)) : hear i = (.fault failure.fault, j) := by
  simp [hear, found]

theorem hear_finished (found : i.next = (.finished, j)) : hear i = (.closed, j) := by
  simp [hear, found]

theorem hear_pending (found : i.next = (.pending, j)) : hear i = (.nothing, j) := by
  simp [hear, found]

end

/-- What a call fails with that fails while it owns the connection. -/
inductive Lost (call : Call) : Fault → Prop
  /-- The server takes no more bytes. -/
  | unsent : Lost call Frame.brokenPipe
  /-- A request is not written, or a response is not read, or not to its end. -/
  | framing (failure : Frame.Failure) : Lost call failure.fault
  /-- A frame was read that is no response. -/
  | unreadable : Lost call Client.unreadable
  /-- The stream ended. -/
  | closed : Lost call (Channel.closedDuring call)

namespace Channel

variable {Name : Type} {c : Channel Name} {m : Moved Name}

theorem turn_of_receiving {p : Pending Name} {rest : List (Pending Name)} (calls : c.calls = p :: rest)
    (stage : p.stage = .receiving) : c.turn = c.listen p rest := by
  simp [turn, calls, stage]

/-- What a turn can come to for the call that is first. -/
inductive Turned (c : Channel Name) (p : Pending Name) (rest : List (Pending Name)) : Moved Name → Prop
  | took : p.stage = .queued → c.usable = true →
      Turned c p rest { channel := { c with calls := { p with stage := .sending } :: rest } }
  /-- The connection is closed already. -/
  | late : p.stage = .queued → c.usable = false → Turned c p rest (c.fail p rest closedBefore)
  | wrote : p.stage = .sending → p.call.request.encode.length ≤ Frame.maxBody →
      Turned c p rest { channel := { c with calls := { p with stage := .receiving } :: rest }
                        written := Frame.frame p.call.request.encode }
  | answered {body : Bytes} {response : Response} {inlet : Frame.Inlet} : p.stage = .receiving →
      c.inlet.next = (.frame body, inlet) → Response.decode? body = some response →
      Turned c p rest { channel := { c with inlet, calls := rest }
                        finished := some (p.name, p.call, p.call.conclude response) }
  /-- It fails, and no response was there for it. -/
  | lost {f : Fault} {inlet : Frame.Inlet} : p.stage ≠ .queued →
      (p.stage = .receiving → ∀ body, c.inlet.next.1 = .frame body → Response.decode? body = none) → Lost p.call f →
      Turned c p rest ({ c with inlet }.fail p rest f)

private theorem write_turned (c : Channel Name) {p : Pending Name} (stage : p.stage = .sending)
    (rest : List (Pending Name)) : Turned c p rest (c.write p rest) := by
  have owns : p.stage ≠ .queued := by simp [stage]
  have deaf : p.stage ≠ .receiving := by simp [stage]
  by_cases fits : p.call.request.encode.length ≤ Frame.maxBody
  · cases gone : c.gone with
    | true =>
      have fails : c.write p rest = c.fail p rest Frame.brokenPipe := by
        simp [write, Frame.Outlet.send, Frame.Outlet.limit, gone, Frame.encode_eq fits]
      rw [fails]
      exact .lost owns (absurd · deaf) .unsent
    | false =>
      have writes : c.write p rest =
          { channel := { c with calls := { p with stage := .receiving } :: rest }
            written := Frame.frame p.call.request.encode } := by
        simp [write, Frame.Outlet.send, gone, Frame.encode_eq fits]
      rw [writes]
      exact .wrote stage fits
  · have fails : c.write p rest = c.fail p rest Frame.Failure.oversized.fault := by
      simp [write, Frame.Outlet.send, Frame.Outlet.limit, Frame.encode, fits]
    rw [fails]
    exact .lost owns (absurd · deaf) (.framing .oversized)

private theorem listen_turned {p : Pending Name} (stage : p.stage = .receiving) {rest : List (Pending Name)}
    (moved : c.listen p rest = some m) : Turned c p rest m := by
  have owns : p.stage ≠ .queued := by simp [stage]
  unfold listen at moved
  rcases found : c.inlet.next with ⟨item, inlet⟩
  cases item with
  | frame body =>
    cases read : Response.decode? body with
    | some response =>
      rw [hear_readable found read] at moved
      cases moved
      exact .answered stage found read
    | none =>
      rw [hear_unreadable found read] at moved
      cases moved
      refine .lost owns (fun _ body' same => ?_) .unreadable
      rw [found] at same
      cases same
      exact read
  | failed failure =>
    rw [hear_failed found] at moved
    cases moved
    exact .lost owns (fun _ body same => by rw [found] at same; cases same) (.framing failure)
  | finished =>
    rw [hear_finished found] at moved
    cases moved
    exact .lost owns (fun _ body same => by rw [found] at same; cases same) .closed
  | pending =>
    rw [hear_pending found] at moved
    cases moved

theorem turn_cases (moved : c.turn = some m) : ∃ p rest, c.calls = p :: rest ∧ Turned c p rest m := by
  cases calls : c.calls with
  | nil => simp [turn, calls] at moved
  | cons p rest =>
    refine ⟨p, rest, rfl, ?_⟩
    cases stage : p.stage with
    | queued =>
      simp only [turn, calls, stage, take, Option.some.injEq] at moved
      cases usable : c.usable with
      | true =>
        rw [if_pos usable] at moved
        rw [← moved]
        exact .took stage usable
      | false =>
        rw [if_neg (by simp [usable])] at moved
        rw [← moved]
        exact .late stage usable
    | sending =>
      simp only [turn, calls, stage, Option.some.injEq] at moved
      subst moved
      exact c.write_turned stage rest
    | receiving =>
      rw [turn_of_receiving calls stage] at moved
      exact listen_turned stage moved

end Channel
end Lockstep.Client
