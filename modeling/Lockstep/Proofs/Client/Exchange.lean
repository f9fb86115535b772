import Lockstep.Proofs.Client.Turn

namespace Lockstep.Client

/-- A connection with those who share it and the server at its other end, and what happened on it. -/
structure Exchange where
  /-- A call is named by its place among all that were made. -/
  channel : Channel Nat
  /-- The calls that were made, each with the number of the clone that made it. -/
  made : List (Nat × Call) := []
  /-- The calls whose requests were written, in this order; of the last one it may be a part. -/
  asked : List (Nat × Call) := []
  /-- All bytes that were written. -/
  written : Bytes := []
  /-- Bytes under way to the server. -/
  sent : Bytes := []
  server : Frame.Inlet := {}
  /-- The bodies of the requests that the server took, each with the body of its answer. -/
  answers : List (Bytes × Bytes) := []
  /-- Bytes under way to the callers. -/
  coming : Bytes := []
  /-- The bodies of the responses that calls took. -/
  heard : List Bytes := []
  /-- What the calls that returned came to. -/
  returned : List (Nat × Call × Except Fault Answer) := []

inductive Action where
  | make (clone : Nat) (call : Call)
  /-- The call that is first goes on. If it fails in writing, so many bytes of its request are out. -/
  | turn (part : Nat)
  /-- A call is cancelled. If it is writing, so many bytes of its request are out. -/
  | cancel (name part : Nat)
  /-- The server receives so many of the bytes that are under way to it. -/
  | carry (count : Nat)
  /-- The server takes a request and answers it. -/
  | answer (body : Bytes)
  /-- The callers' end receives so many of the bytes that are under way to it. -/
  | bring (count : Nat)
  /-- The stream to the callers ends, and what is under way is lost. -/
  | cut
  /-- The server takes no more bytes. -/
  | refuse
  /-- The server writes bytes that answer no request. -/
  | stray (bytes : Bytes)
  deriving DecidableEq, Repr

/-- The server writes nothing but one answer for each request. -/
def Action.isOrderly : Action → Bool
  | .stray _ => false
  | _ => true

namespace Exchange

/-- The connection of a worker that has just joined. -/
def start (parties : Nat) : Exchange where
  channel := { parties, inlet := {} }

/-- Bytes of the request of this call go out. -/
def put (e : Exchange) (p : Pending Nat) (bytes : Bytes) : Exchange :=
  { e with asked := e.asked ++ [(p.name, p.call)], written := e.written ++ bytes, sent := e.sent ++ bytes }

/-- The first call ends in the middle of its request, if it is writing one: so many bytes of it are out. -/
def stop (e : Exchange) (part : Nat) : Exchange :=
  match e.channel.calls.head? with
  | none => e
  | some p =>
    match p.stage, Frame.encode p.call.request.encode with
    | .sending, .ok bytes => e.put p (bytes.take part)
    | _, _ => e

/-- The body of the response that is there for the first call. -/
def response? (c : Channel Nat) : Option Bytes :=
  match c.calls.head?.map Pending.stage, c.inlet.next.1 with
  | some .receiving, .frame body => (Response.decode? body).map fun _ => body
  | _, _ => none

/-- What a turn of the connection comes to. -/
def apply (e : Exchange) (part : Nat) (m : Channel.Moved Nat) : Exchange :=
  let before := match m.finished, e.channel.calls.head? with
    | some _, _ => e.stop part
    | none, some p => if m.written = [] then e else e.put p m.written
    | none, none => e
  { before with
    channel := m.channel
    heard := before.heard ++ (response? e.channel).toList
    returned := before.returned ++ m.finished.toList }

def step (e : Exchange) : Action → Exchange
  | .make clone call =>
    { e with channel := e.channel.enqueue e.made.length call, made := e.made ++ [(clone, call)] }
  | .turn part =>
    match e.channel.turn with
    | none => e
    | some m => e.apply part m
  | .cancel name part =>
    let before := if e.channel.calls.head?.any (·.name = name) then e.stop part else e
    { before with channel := e.channel.cancel name }
  | .carry count => { e with server := e.server.push (e.sent.take count), sent := e.sent.drop count }
  | .answer body =>
    match e.server.next, Frame.encode body with
    | (.frame request, server), .ok bytes =>
      { e with server, answers := e.answers ++ [(request, body)], coming := e.coming ++ bytes }
    | _, _ => e
  | .bring count =>
    if e.channel.inlet.closed then e
    else
      { e with
        channel := { e.channel with inlet := e.channel.inlet.push (e.coming.take count) }
        coming := e.coming.drop count }
  | .cut => { e with channel := { e.channel with inlet := e.channel.inlet.close }, coming := [] }
  | .refuse => { e with channel := { e.channel with gone := true } }
  | .stray bytes => { e with coming := e.coming ++ bytes }

def run (e : Exchange) (actions : List Action) : Exchange :=
  actions.foldl step e

/-- The first call may have been writing when it ended. -/
inductive Stopped (e : Exchange) (p : Pending Nat) : Exchange → Prop
  | silent : Stopped e p e
  | amid (part : Nat) : p.stage = .sending → p.call.request.encode.length ≤ Frame.maxBody →
      Stopped e p (e.put p ((Frame.frame p.call.request.encode).take part))

private theorem stop_stopped {e : Exchange} {p : Pending Nat} (first : e.channel.calls.head? = some p) (part : Nat) :
    Stopped e p (e.stop part) := by
  unfold stop
  rw [first]
  by_cases fits : p.call.request.encode.length ≤ Frame.maxBody
  · cases stage : p.stage with
    | sending =>
      simp only [stage, Frame.encode_eq fits]
      exact .amid part stage fits
    | queued | receiving =>
      simp only [stage]
      exact .silent
  · simp only [Frame.encode, if_neg fits]
    cases p.stage <;> exact .silent

/-- What a step can do to the calls. -/
inductive Stepped (e : Exchange) : Action → Exchange → Prop
  | made (clone : Nat) (call : Call) :
      Stepped e (.make clone call)
        { e with channel := e.channel.enqueue e.made.length call, made := e.made ++ [(clone, call)] }
  | took {part : Nat} {p : Pending Nat} {rest : List (Pending Nat)} : e.channel.calls = p :: rest →
      p.stage = .queued → e.channel.usable = true →
      Stepped e (.turn part) { e with channel := { e.channel with calls := { p with stage := .sending } :: rest } }
  /-- A call finds the connection closed. -/
  | late {part : Nat} {p : Pending Nat} {rest : List (Pending Nat)} : e.channel.calls = p :: rest →
      p.stage = .queued → e.channel.usable = false →
      Stepped e (.turn part)
        { e with
          channel := { e.channel with usable := false, calls := rest }
          returned := e.returned ++ [(p.name, p.call, .error Channel.closedBefore)] }
  | wrote {part : Nat} {p : Pending Nat} {rest : List (Pending Nat)} : e.channel.calls = p :: rest →
      p.stage = .sending → p.call.request.encode.length ≤ Frame.maxBody →
      Stepped e (.turn part)
        { e.put p (Frame.frame p.call.request.encode) with
          channel := { e.channel with calls := { p with stage := .receiving } :: rest } }
  | answered {part : Nat} {p : Pending Nat} {rest : List (Pending Nat)} {body : Bytes} {response : Response}
      {inlet : Frame.Inlet} : e.channel.calls = p :: rest → p.stage = .receiving →
      e.channel.inlet.next = (.frame body, inlet) → Response.decode? body = some response →
      Stepped e (.turn part)
        { e with
          channel := { e.channel with inlet, calls := rest }
          heard := e.heard ++ [body]
          returned := e.returned ++ [(p.name, p.call, p.call.conclude response)] }
  /-- A call fails that owns the connection. -/
  | lost {part : Nat} {p : Pending Nat} {rest : List (Pending Nat)} {f : Fault} {inlet : Frame.Inlet}
      {before : Exchange} : e.channel.calls = p :: rest → p.stage ≠ .queued → Lost p.call f → Stopped e p before →
      Stepped e (.turn part)
        { before with
          channel := { e.channel with inlet, usable := false, calls := rest }
          returned := before.returned ++ [(p.name, p.call, .error f)] }
  /-- No call of that name owns the connection. -/
  | dropped {name part : Nat} : (∀ p ∈ e.channel.calls, p.name = name → p.stage = .queued) →
      Stepped e (.cancel name part)
        { e with channel := { e.channel with calls := e.channel.calls.filter (·.name ≠ name) } }
  | withdrawn {name part : Nat} {p : Pending Nat} {rest : List (Pending Nat)} {before : Exchange} :
      e.channel.calls = p :: rest → p.name = name → p.stage ≠ .queued → Stopped e p before →
      Stepped e (.cancel name part)
        { before with
          channel := { e.channel with usable := false, calls := e.channel.calls.filter (·.name ≠ name) } }
  | carried (count : Nat) :
      Stepped e (.carry count)
        { e with server := e.server.push (e.sent.take count), sent := e.sent.drop count }
  | served {body request : Bytes} {server : Frame.Inlet} : e.server.next = (.frame request, server) →
      body.length ≤ Frame.maxBody →
      Stepped e (.answer body)
        { e with server, answers := e.answers ++ [(request, body)], coming := e.coming ++ Frame.frame body }
  | brought (count : Nat) : e.channel.inlet.closed = false →
      Stepped e (.bring count)
        { e with
          channel := { e.channel with inlet := e.channel.inlet.push (e.coming.take count) }
          coming := e.coming.drop count }
  | cut : Stepped e .cut { e with channel := { e.channel with inlet := e.channel.inlet.close }, coming := [] }
  | refused : Stepped e .refuse { e with channel := { e.channel with gone := true } }
  | strayed (bytes : Bytes) : Stepped e (.stray bytes) { e with coming := e.coming ++ bytes }
  | idle (a : Action) : Stepped e a e

section
variable {e : Exchange} {p : Pending Nat}

/-- No response is taken by a call that does not listen for one. -/
theorem response?_of_deaf {c : Channel Nat} (first : c.calls.head? = some p) (deaf : p.stage ≠ .receiving) :
    response? c = none := by
  unfold response?
  rw [first, Option.map_some]
  cases stage : p.stage with
  | receiving => exact absurd stage deaf
  | queued | sending => rfl

private theorem response?_of_unreadable {c : Channel Nat} (first : c.calls.head? = some p)
    (unanswered : p.stage = .receiving → ∀ body, c.inlet.next.1 = .frame body → Response.decode? body = none) :
    response? c = none := by
  by_cases stage : p.stage = .receiving
  · unfold response?
    rw [first, Option.map_some, stage]
    cases item : c.inlet.next.1 with
    | frame body => simp [unanswered stage body item]
    | failed | finished | pending => rfl
  · exact response?_of_deaf first stage

private theorem apply_stepped {m : Channel.Moved Nat} (moved : e.channel.turn = some m) (part : Nat) :
    Stepped e (.turn part) (e.apply part m) := by
  obtain ⟨p, rest, calls, turned⟩ := Channel.turn_cases moved
  have first : e.channel.calls.head? = some p := by rw [calls, List.head?_cons]
  cases turned with
  | took stage usable =>
    have silent := response?_of_deaf first (by simp [stage])
    simpa [apply, first, silent] using Stepped.took calls stage usable
  | late stage unusable =>
    have silent := response?_of_deaf first (by simp [stage])
    have before : e.stop part = e := by simp [stop, first, stage]
    simpa [apply, silent, before, Channel.fail] using Stepped.late calls stage unusable
  | wrote stage fits =>
    have silent := response?_of_deaf first (by simp [stage])
    have some : Frame.frame p.call.request.encode ≠ [] := Frame.Inlet.frame_ne_nil _
    simpa [apply, first, silent, some, put] using Stepped.wrote calls stage fits
  | @answered body _ _ stage found read =>
    have heard : response? e.channel = some body := by simp [response?, first, stage, found, read]
    have before : e.stop part = e := by simp [stop, first, stage]
    simpa [apply, heard, before] using Stepped.answered calls stage found read
  | lost owns unanswered lost =>
    have silent := response?_of_unreadable first unanswered
    simpa [apply, silent, Channel.fail] using Stepped.lost calls owns lost (stop_stopped first part)

/-- Only the call that is first can own the connection. -/
private theorem cancel_stepped (queued : ∀ p ∈ e.channel.calls.tail, p.stage = .queued) (name part : Nat) :
    Stepped e (.cancel name part) (e.step (.cancel name part)) := by
  by_cases owner : ∃ p, e.channel.calls.head? = some p ∧ p.name = name ∧ p.stage ≠ .queued
  · obtain ⟨p, first, named, owns⟩ := owner
    obtain ⟨rest, calls⟩ := List.head?_eq_some_iff.mp first
    have closes : e.channel.cancel name =
        { e.channel with usable := false, calls := e.channel.calls.filter (·.name ≠ name) } := by
      simp [Channel.cancel, calls, named, owns]
    simpa [step, first, named, closes] using Stepped.withdrawn calls named owns (stop_stopped first part)
  · have waits : ∀ p ∈ e.channel.calls, p.name = name → p.stage = .queued := by
      intro p member named
      cases calls : e.channel.calls with
      | nil => simp [calls] at member
      | cons first rest =>
        rw [calls] at member
        rcases List.mem_cons.mp member with rfl | later
        · exact Decidable.byContradiction fun owns => owner ⟨p, by rw [calls, List.head?_cons], named, owns⟩
        · exact queued p (by rw [calls]; exact later)
    have keeps : e.channel.cancel name = { e.channel with calls := e.channel.calls.filter (·.name ≠ name) } := by
      simp only [Channel.cancel, Channel.mk.injEq, and_true, true_and]
      simpa using fun _ => waits
    have before : (if e.channel.calls.head?.any (·.name = name) then e.stop part else e) = e := by
      cases first : e.channel.calls.head? with
      | none => simp
      | some p =>
        by_cases named : p.name = name
        · have stage := waits p (List.mem_of_mem_head? first) named
          simp [named, stop, first, stage]
        · simp [named]
    have dropped : Stepped e (.cancel name part) _ := .dropped waits
    simpa [step, before, keeps] using dropped

theorem step_stepped (e : Exchange) (a : Action) (queued : ∀ p ∈ e.channel.calls.tail, p.stage = .queued) :
    Stepped e a (e.step a) := by
  cases a with
  | make clone call => exact .made clone call
  | turn part =>
    cases moved : e.channel.turn with
    | none => simpa [step, moved] using Stepped.idle _
    | some m => simpa [step, moved] using apply_stepped moved part
  | cancel name part => exact cancel_stepped queued name part
  | carry count => exact .carried count
  | answer body =>
    by_cases fits : body.length ≤ Frame.maxBody
    · rcases next : e.server.next with ⟨item, server⟩
      cases item with
      | frame request => simpa [step, next, Frame.encode_eq fits] using Stepped.served next fits
      | failed | finished | pending => simpa [step, next] using Stepped.idle _
    · simpa [step, Frame.encode, fits] using Stepped.idle _
  | bring count =>
    cases closed : e.channel.inlet.closed with
    | true => simpa [step, closed] using Stepped.idle _
    | false => simpa [step, closed] using Stepped.brought count closed
  | cut => exact .cut
  | refuse => exact .refused
  | stray bytes => exact .strayed bytes

end

end Exchange
end Lockstep.Client
