import Lockstep.Proofs.Client.Callers
import Lockstep.Proofs.Frame.Chunks
import Mathlib.Data.List.Nodup

/-!
# To each call its own answer

The server takes the requests in the order in which they were written, and the
callers' end takes the answers in the order in which they were given. At most one
request is under way at a time, so the answer that a call takes is the one to its
own request, whoever else makes calls on the connection, and whoever gives up.
-/
namespace Lockstep.Frame

/-- Of a row of frames that was written the first were taken; what was received and not taken, and what is left, make up
    the others. -/
structure Row (written taken : List Bytes) (unread left : Bytes) : Prop where
  small : ∀ body ∈ written, body.length ≤ maxBody
  small_taken : ∀ body ∈ taken, body.length ≤ maxBody
  bytes : taken.flatMap frame ++ (unread ++ left) = written.flatMap frame

namespace Row

variable {written taken : List Bytes} {unread left : Bytes} {body : Bytes}

private theorem new : Row [] [] [] [] :=
  ⟨nofun, nofun, rfl⟩

private theorem isPrefix (row : Row written taken unread left) : taken <+: written := by
  obtain ⟨others, split, _⟩ := frames_of_prefix row.small_taken row.small row.bytes
  exact ⟨others, split.symm⟩

private theorem write (row : Row written taken unread left) (small : body.length ≤ maxBody) :
    Row (written ++ [body]) taken unread (left ++ frame body) where
  small := List.forall_mem_append.mpr ⟨row.small, List.forall_mem_singleton.mpr small⟩
  small_taken := row.small_taken
  bytes := by
    rw [List.flatMap_append, ← row.bytes]
    simp

private theorem take {unread' : Bytes} (row : Row written taken unread left) (small : body.length ≤ maxBody)
    (split : unread = frame body ++ unread') : Row written (taken ++ [body]) unread' left where
  small := row.small
  small_taken := List.forall_mem_append.mpr ⟨row.small_taken, List.forall_mem_singleton.mpr small⟩
  bytes := by
    rw [← row.bytes, split]
    simp

private theorem move {some : Bytes} (row : Row written taken unread (some ++ left)) :
    Row written taken (unread ++ some) left where
  small := row.small
  small_taken := row.small_taken
  bytes := by
    rw [← row.bytes, List.append_assoc]

/-- When all frames were taken there is nothing left. -/
private theorem nothing (row : Row written taken unread left) (all : written.length ≤ taken.length) :
    unread = [] ∧ left = [] := by
  obtain rfl := row.isPrefix.eq_of_length_le all
  exact List.append_eq_nil_iff.mp (List.append_right_eq_self.mp row.bytes)

end Row
end Lockstep.Frame

namespace Lockstep.Client.Exchange

variable {e e' : Exchange} {a : Action} {p : Pending Nat} {rest : List (Pending Nat)}

/-- The requests that were written. -/
def requests (e : Exchange) : List Bytes :=
  e.asked.map fun a => a.2.request.encode

/-- The answers come in whole, as long as the stream goes on. -/
structure Down (inlet : Frame.Inlet) (answers heard : List Bytes) (coming : Bytes) : Prop where
  goes : inlet.failed = false
  fits : inlet.reader.Fits
  row : ∃ left, Frame.Row answers heard inlet.unread left ∧ (inlet.closed = false → left = coming)

/-- What is under way is what was written at one end and not taken at the other. -/
structure Streams (e : Exchange) : Prop where
  server : e.server.Open
  fits : e.server.reader.Fits
  /-- Of the last request a part may be missing, when the connection is of no use any more. -/
  up : ∃ unsent, Frame.Row e.requests (e.answers.map Prod.fst) e.server.unread (e.sent ++ unsent) ∧
    (e.channel.usable = true → unsent = [])
  /-- The responses that calls took are the first of the answers. -/
  heard : e.heard <+: e.answers.map Prod.snd
  down : e.channel.usable = true → Down e.channel.inlet (e.answers.map Prod.snd) e.heard e.coming

private theorem streams_start (parties : Nat) : Streams (start parties) where
  server := ⟨rfl, rfl⟩
  fits := Frame.Reader.fits_new
  up := ⟨[], .new, fun _ => rfl⟩
  heard := List.prefix_rfl
  down _ := ⟨rfl, Frame.Reader.fits_new, [], .new, fun _ => rfl⟩

/-- A call that takes the connection along may leave a part of its request behind, and that does no harm: nothing is
    written after it. -/
private theorem Streams.closed (streams : Streams e) (queued : Queued e) (calls : e.channel.calls = p :: rest)
    (owns : p.stage ≠ .queued) (stopped : Stopped e p e') {channel : Channel Nat} (unusable : channel.usable = false)
    {returned : List (Nat × Call × Except Fault Answer)} : Streams { e' with channel, returned } := by
  obtain ⟨unsent, row, whole⟩ := streams.up
  have shut : ∀ {P : Prop}, channel.usable = true → P := fun usable => by simp [unusable] at usable
  cases stopped with
  | silent => exact ⟨streams.server, streams.fits, ⟨unsent, row, shut⟩, streams.heard, shut⟩
  | amid part _ fits =>
    obtain rfl := whole (queued.usable calls owns)
    have written := row.write fits
    have begun : Frame.Row (e.put p ((Frame.frame p.call.request.encode).take part)).requests (e.answers.map Prod.fst)
        e.server.unread ((e.put p ((Frame.frame p.call.request.encode).take part)).sent ++
          (Frame.frame p.call.request.encode).drop part) := by
      simpa [put, requests] using written
    exact ⟨streams.server, streams.fits, ⟨_, begun, shut⟩, streams.heard, shut⟩

private theorem Streams.step (streams : Streams e) (queued : Queued e) (stepped : Stepped e a e')
    (orderly : a.isOrderly = true) : Streams e' := by
  obtain ⟨unsent, row, whole⟩ := streams.up
  cases stepped with
  | strayed => cases orderly
  | made | took | dropped | refused | idle =>
    exact ⟨streams.server, streams.fits, ⟨unsent, row, whole⟩, streams.heard, streams.down⟩
  | late =>
    exact ⟨streams.server, streams.fits, ⟨unsent, row, fun usable => Bool.noConfusion usable⟩, streams.heard,
      fun usable => Bool.noConfusion usable⟩
  | wrote calls stage fits =>
    -- the connection is of use, so every request before this one was written to its end
    obtain rfl := whole (queued.usable calls (by simp [stage]))
    refine ⟨streams.server, streams.fits, ⟨[], ?_, fun _ => rfl⟩, streams.heard, streams.down⟩
    have written := row.write fits
    simpa [put, requests] using written
  | answered calls stage found read =>
    obtain ⟨goes, fits, left, row', open_⟩ := streams.down (queued.usable calls (by simp [stage]))
    obtain ⟨split, small, fits'⟩ := Frame.Inlet.next_frame fits found
    obtain ⟨rest, _, _, rfl⟩ := Frame.Inlet.of_next_frame found
    have taken := row'.take small split
    exact ⟨streams.server, streams.fits, ⟨unsent, row, whole⟩, taken.isPrefix,
      fun _ => ⟨goes, fits', left, taken, open_⟩⟩
  | lost calls owns _ stopped => exact streams.closed queued calls owns stopped rfl
  | withdrawn calls _ owns stopped => exact streams.closed queued calls owns stopped rfl
  | carried count =>
    refine ⟨streams.server, streams.fits.push _, ⟨unsent, ?_, whole⟩, streams.heard, streams.down⟩
    have moved : Frame.Row e.requests (e.answers.map Prod.fst) e.server.unread
        (e.sent.take count ++ (e.sent.drop count ++ unsent)) := by
      rw [← List.append_assoc, List.take_append_drop]
      exact row
    simpa [Frame.Inlet.unread, Frame.Inlet.push, requests] using moved.move
  | served next small =>
    obtain ⟨split, small', fits⟩ := Frame.Inlet.next_frame streams.fits next
    obtain ⟨rest, _, _, rfl⟩ := Frame.Inlet.of_next_frame next
    refine ⟨streams.server, fits, ⟨unsent, ?_, whole⟩, ?_, fun usable => ?_⟩
    · simpa [requests] using row.take small' split
    · rw [List.map_append]
      exact streams.heard.trans (List.prefix_append ..)
    · obtain ⟨goes, fits, left, row', open_⟩ := streams.down usable
      refine ⟨goes, fits, left ++ Frame.frame _, ?_, fun closed => by rw [open_ closed]⟩
      rw [List.map_append]
      exact row'.write small
  | brought count closed =>
    refine ⟨streams.server, streams.fits, ⟨unsent, row, whole⟩, streams.heard, fun usable => ?_⟩
    obtain ⟨goes, fits, left, row', open_⟩ := streams.down usable
    obtain rfl := open_ closed
    refine ⟨goes, fits.push _, e.coming.drop count, ?_, fun _ => rfl⟩
    rw [← List.take_append_drop count e.coming] at row'
    simpa [Frame.Inlet.unread, Frame.Inlet.push] using row'.move
  | cut =>
    refine ⟨streams.server, streams.fits, ⟨unsent, row, whole⟩, streams.heard, fun usable => ?_⟩
    -- what is lost stays in the row, and nothing is received any more
    obtain ⟨goes, fits, left, row', open_⟩ := streams.down usable
    exact ⟨goes, fits, left, row', fun closed => Bool.noConfusion closed⟩

theorem streams_run (streams : Streams e) (queued : Queued e) {actions : List Action}
    (orderly : ∀ a ∈ actions, a.isOrderly = true) : Streams (e.run actions) := by
  induction actions generalizing e with
  | nil => exact streams
  | cons a actions ih =>
    obtain ⟨first, others⟩ := List.forall_mem_cons.mp orderly
    have stepped := queued.stepped a
    exact ih (streams.step queued stepped first) (queued.step stepped) others

/-- The outcome is what the server's answer means to the call: the answer to the request that stands where the call
    wrote its own. -/
def Answered (e : Exchange) (name : Nat) (call : Call) (outcome : Except Fault Answer) : Prop :=
  ∃ (k : Nat) (body : Bytes) (response : Response), e.asked[k]? = some (name, call) ∧
    e.answers[k]? = some (call.request.encode, body) ∧ Response.decode? body = some response ∧
    outcome = call.conclude response

private theorem Streams.answered (streams : Streams e) {name : Nat} {call : Call} {outcome : Except Fault Answer}
    (told : Told e.asked e.heard name call outcome) :
    e.Answered name call outcome ∨ ∃ f, outcome = .error f ∧ (f = Channel.closedBefore ∨ Lost call f) := by
  rcases told with ⟨k, body, response, asked, heard, read, outcome⟩ | failed
  · -- the k-th response is the k-th answer, and the k-th request that the server took is the k-th that was written
    have given := getElem?_of_prefix streams.heard heard
    rw [List.getElem?_map, Option.map_eq_some_iff] at given
    obtain ⟨⟨request, answer⟩, given, rfl⟩ := given
    obtain ⟨_, row, _⟩ := streams.up
    have own : e.requests[k]? = some request := getElem?_of_prefix row.isPrefix (by simp [given])
    have same : request = call.request.encode := by simpa [requests, asked, eq_comm] using own
    exact .inl ⟨k, answer, response, asked, by rw [given, same], read, outcome⟩
  · exact .inr failed

/-- Between two requests nothing is under way. -/
private theorem Streams.nothing (streams : Streams e) (counted : Counted e) (usable : e.channel.usable = true)
    (free : owing? e.channel.calls = none) :
    e.server.unread = [] ∧ e.sent = [] ∧ e.channel.inlet.unread = [] ∧
      (e.channel.inlet.closed = false → e.coming = []) := by
  obtain ⟨done, asked, equal⟩ := counted.due usable
  rw [free, Option.toList_none, List.append_nil] at asked
  obtain ⟨unsent, up, _⟩ := streams.up
  obtain ⟨_, _, left, down, open_⟩ := streams.down usable
  have heard := down.isPrefix.length_le
  have answered := up.isPrefix.length_le
  simp only [requests, List.length_map, asked, equal] at heard answered
  obtain ⟨unread, under⟩ := up.nothing (by simpa [requests, asked, equal] using heard)
  obtain ⟨unread', left'⟩ := down.nothing (by simpa using answered)
  exact ⟨unread, (List.append_eq_nil_iff.mp under).1, unread', fun closed => (open_ closed).symm.trans left'⟩

/-- The first call takes the connection, its request is carried over and answered, and the answer is brought. -/
def roundTrip (p : Pending Nat) (body : Bytes) : List Action :=
  [.turn 0, .turn 0, .carry (Frame.frame p.call.request.encode).length, .answer body,
    .bring (Frame.frame body).length, .turn 0]

private theorem step_took (calls : e.channel.calls = p :: rest) (stage : p.stage = .queued)
    (usable : e.channel.usable = true) (part : Nat) :
    e.step (.turn part) = { e with channel := { e.channel with calls := { p with stage := .sending } :: rest } } := by
  simp [step, Channel.turn, Channel.take, apply, response?, calls, stage, usable]

private theorem step_wrote (calls : e.channel.calls = p :: rest) (stage : p.stage = .sending)
    (present : e.channel.gone = false) (fits : p.call.request.encode.length ≤ Frame.maxBody) (part : Nat) :
    e.step (.turn part) =
      { e.put p (Frame.frame p.call.request.encode) with
        channel := { e.channel with calls := { p with stage := .receiving } :: rest } } := by
  have silent := response?_of_deaf (c := e.channel) (by rw [calls, List.head?_cons]) (by simp [stage])
  simp [step, Channel.turn, Channel.write, Frame.Outlet.send, Frame.encode_eq fits, apply, calls, stage, present,
    silent, Frame.Inlet.frame_ne_nil, put]

private theorem run_roundTrip (streams : Streams e) (counted : Counted e) (usable : e.channel.usable = true)
    (present : e.channel.gone = false) (goes : e.channel.inlet.closed = false) (calls : e.channel.calls = p :: rest)
    (stage : p.stage = .queued) (fits : p.call.request.encode.length ≤ Frame.maxBody) {body : Bytes}
    (small : body.length ≤ Frame.maxBody) {response : Response} (read : Response.decode? body = some response) :
    (e.run (roundTrip p body)).returned = e.returned ++ [(p.name, p.call, p.call.conclude response)] ∧
      (e.run (roundTrip p body)).channel.usable = true ∧ (e.run (roundTrip p body)).channel.calls = rest := by
  have free : owing? e.channel.calls = none := by rw [calls, owing?_of_deaf (by simp [stage])]
  obtain ⟨served, sent, heard, coming⟩ := streams.nothing counted usable free
  have coming := coming goes
  obtain ⟨goes', fits', _⟩ := streams.down usable
  have asks := Frame.Inlet.next_push_frame streams.server.2 streams.fits served fits
  have answers := Frame.Inlet.next_push_frame goes' fits' heard small
  have took := step_took calls stage usable 0
  have wrote := step_wrote (e := { e with channel := { e.channel with calls := { p with stage := .sending } :: rest } })
    rfl rfl present fits 0
  rw [roundTrip, run_cons, took, run_cons, wrote, run_cons, run_cons, run_cons]
  simp only [step, put, sent, List.nil_append, List.take_length, List.drop_length, asks, Frame.encode_eq small, coming,
    goes, Bool.false_eq_true, if_false]
  simp [run, step, Channel.turn, Channel.listen, hear_readable answers read, apply, stop, response?, answers, read,
    usable]

/-- What callers can rely on, whoever answers at the other end. -/
structure Guarded (e : Exchange) : Prop where
  /-- No call writes its request twice, and none returns twice. -/
  once : (e.asked.map Prod.fst).Nodup ∧ (e.returned.map Prod.fst).Nodup
  /-- At most one of the requests that were written has no response. -/
  single : e.asked.length ≤ e.heard.length + 1
  /-- To cancel a call that waits for the connection does the connection no harm. -/
  spared : ∀ p ∈ e.channel.calls, p.stage = .queued → ∀ part,
    (e.step (.cancel p.name part)).channel.usable = e.channel.usable
  /-- A response does the connection no harm, an error response neither. -/
  kept : ∀ part m name call response, e.channel.turn = some m →
    m.finished = some (name, call, call.conclude response) →
    (e.step (.turn part)).channel.usable = e.channel.usable
  /-- The connection ends when the call that owns it is cancelled, or fails without a response. -/
  ends : e.channel.usable = true → ∀ a, (e.step a).channel.usable = false ↔ e.Forfeits a
  /-- After its end nothing is written, and every call that returns finds the connection closed. -/
  closed : e.channel.usable = false → ∀ later, Over e (e.run later)
  /-- After its end every call returns. -/
  drained : e.channel.usable = false →
    (e.run (List.replicate e.channel.calls.length (.turn 0))).channel.calls = [] ∧
      (e.run (List.replicate e.channel.calls.length (.turn 0))).returned =
        e.returned ++ e.channel.calls.map fun p => (p.name, p.call, .error Channel.closedBefore)

/-- What callers can rely on when the server gives each request one answer, in order. -/
structure Served (e : Exchange) : Prop where
  /-- The server takes the requests in the order in which they were written. -/
  order : e.answers.map Prod.fst <+: e.requests
  /-- A call that returned, unless it failed without a response, has the answer to its own request. -/
  own : ∀ name call outcome, (name, call, outcome) ∈ e.returned →
    e.Answered name call outcome ∨ ∃ f, outcome = .error f ∧ (f = Channel.closedBefore ∨ Lost call f)
  /-- As long as the connection is of use, and neither end has stopped listening, the call that is first gets
      through. -/
  through : e.channel.usable = true → e.channel.gone = false → e.channel.inlet.closed = false →
    ∀ p rest body response, e.channel.calls = p :: rest → p.stage = .queued →
      p.call.request.encode.length ≤ Frame.maxBody → body.length ≤ Frame.maxBody →
      Response.decode? body = some response →
        (e.run (roundTrip p body)).returned = e.returned ++ [(p.name, p.call, p.call.conclude response)] ∧
          (e.run (roundTrip p body)).channel.usable = true ∧ (e.run (roundTrip p body)).channel.calls = rest

private theorem nodup_of_order {α : Type} {l : List α} {number : α → Nat} (order : l.Pairwise (number · < number ·)) :
    (l.map number).Nodup :=
  List.pairwise_map.mpr (order.imp Nat.ne_of_lt)

private theorem spared_of_inOrder (inOrder : InOrder e) {p : Pending Nat} (member : p ∈ e.channel.calls)
    (stage : p.stage = .queued) (part : Nat) :
    (e.step (.cancel p.name part)).channel.usable = e.channel.usable := by
  have alone : ∀ q ∈ e.channel.calls, q.name = p.name → q.stage = .queued := by
    intro q member' named
    rwa [List.inj_on_of_nodup_map (nodup_of_order inOrder.calls_order) member' member named]
  simpa [step, Channel.cancel] using fun _ => alone

private theorem kept_of_turn {part : Nat} {m : Channel.Moved Nat} {name : Nat} {call : Call} {response : Response}
    (moved : e.channel.turn = some m) (finished : m.finished = some (name, call, call.conclude response)) :
    (e.step (.turn part)).channel.usable = e.channel.usable := by
  have after : (e.step (.turn part)).channel = m.channel := by simp [step, moved, apply]
  rw [after]
  obtain ⟨p, rest, calls, turned⟩ := Channel.turn_cases moved
  cases turned with
  | took | wrote | answered => rfl
  | late _ unusable => rw [unusable]; rfl
  | lost _ _ lost =>
    simp only [Channel.fail, Option.some.injEq, Prod.mk.injEq] at finished
    obtain ⟨rfl, rfl, concluded⟩ := finished
    exact absurd concluded.symm (conclude_ne_lost lost response)

/-- Any number of clones make calls on one connection in any order, any of them are cancelled at any moment, and bytes
    come and go in any pieces. Whoever answers, at most one request is open at a time, the connection ends only by a
    call that owns it, and then for good. If the server gives each request one answer, in order, then no call takes the
    answer to another. -/
theorem calls_get_their_own_answers (parties : Nat) (actions : List Action) :
    Guarded ((start parties).run actions) ∧
      ((∀ a ∈ actions, a.isOrderly = true) → Served ((start parties).run actions)) := by
  obtain ⟨queued, inOrder, counted, told⟩ := callers_run parties actions
  constructor
  · exact {
      once := ⟨nodup_of_order inOrder.asked_order, nodup_of_order inOrder.returned_order⟩
      single := counted.single
      spared := fun p member stage => spared_of_inOrder inOrder member stage
      kept := fun _ _ _ _ _ => kept_of_turn
      ends := usable_step
      closed := over_run queued
      drained := run_turns_of_unusable queued }
  · intro orderly
    have streams := streams_run (streams_start parties) (queued_start parties) orderly
    obtain ⟨_, row, _⟩ := streams.up
    exact {
      order := row.isPrefix
      own := fun _ _ _ member => streams.answered (told _ member)
      through := fun usable present goes _ _ _ _ calls stage fits small =>
        run_roundTrip streams counted usable present goes calls stage fits small }

/-- Three clones make five calls: the first gets an error response, the third is cancelled while it waits for the
    connection, and the fourth while it writes. -/
def crowd : List Action :=
  [.make 0 (.status 1), .make 1 (.wait 1 none), .make 0 (.abort 1), .make 2 (.reset 1),
    .turn 0, .turn 0, .cancel 2 0, .carry 5, .carry 100,
    .answer (Response.error .unknownHandle "no such handle").encode, .bring 3, .turn 0, .bring 100, .turn 0,
    .turn 0, .turn 0, .carry 100, .answer (Response.arrived 1).encode, .bring 100, .turn 0,
    .turn 0, .cancel 3 7, .make 1 (.status 1), .turn 0]

theorem crowd_gets_its_own_answers :
    (∀ a ∈ crowd, a.isOrderly = true) ∧ Guarded ((start 2).run crowd) ∧ Served ((start 2).run crowd) ∧
      (((start 2).run crowd).returned.map fun r => (r.1, r.2.2.toOption)) =
        [(0, none), (1, some (.index 1)), (4, none)] ∧
      ((start 2).run crowd).channel.usable = false := by
  have orderly : ∀ a ∈ crowd, a.isOrderly = true := by decide +kernel
  obtain ⟨guarded, served⟩ := calls_get_their_own_answers 2 crowd
  exact ⟨orderly, guarded, served orderly, by decide +kernel, by decide +kernel⟩

end Lockstep.Client.Exchange
