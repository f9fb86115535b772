import Lockstep.Proofs.Frame.Chunks
import Lockstep.Proofs.Message.RoundTrip

/-!
# Messages on a stream

Messages that are sent one after the other arrive one after the other, however
the bytes between the two ends are cut. Only a message that does not fit into a
frame is refused, and nothing of it is written.
-/
namespace Lockstep.Frame

/-- Sends one body after the other, and what came of each. -/
def Outlet.sendAll (o : Outlet) : List Bytes → List (Except Fault Bytes) × Outlet
  | [] => ([], o)
  | body :: rest =>
    let (result, o) := o.send body
    let (results, o) := o.sendAll rest
    (result :: results, o)

/-- The bytes that went out. -/
def written (results : List (Except Fault Bytes)) : Bytes :=
  results.flatMap fun
    | .ok bytes => bytes
    | .error _ => []

/-- What comes of sending a body to a peer that listens. -/
def sent (body : Bytes) : Except Fault Bytes :=
  if body.length ≤ maxBody then .ok (frame body) else .error Failure.oversized.fault

private theorem Outlet.send_present (body : Bytes) : ({} : Outlet).send body = (sent body, {}) := by
  by_cases fits : body.length ≤ maxBody
  · simp [send, encode, sent, fits, frame]
  · simp [send, encode, sent, fits]

private theorem Outlet.sendAll_present (bodies : List Bytes) :
    ({} : Outlet).sendAll bodies = (bodies.map sent, {}) := by
  induction bodies with
  | nil => rfl
  | cons body bodies ih => simp [sendAll, send_present, ih]

private theorem written_sent (bodies : List Bytes) :
    written (bodies.map sent) = (bodies.filter (·.length ≤ maxBody)).flatMap frame := by
  induction bodies with
  | nil => rfl
  | cons body bodies ih =>
    rw [written] at ih
    by_cases fits : body.length ≤ maxBody
    · simp [written, sent, fits, ih]
    · simp [written, sent, fits, ih]

namespace Inlet

private theorem next_over {i : Inlet} (goes : i.failed = false) (closed : i.closed = true) (nothing : i.unread = []) :
    ∃ j, i.next = (.finished, j) := by
  obtain ⟨⟨expected, buffer⟩, _, _⟩ := i
  cases goes
  cases closed
  cases expected with
  | none =>
    obtain rfl : buffer = [] := nothing
    exact ⟨_, rfl⟩
  | some length => cases nothing

/-- A row of frames comes out frame by frame, and then the stream is over. -/
private theorem yields_frames {i : Inlet} (goes : i.failed = false) (closed : i.closed = true) (fits : i.reader.Fits)
    {bodies : List Bytes} (small : ∀ body ∈ bodies, body.length ≤ maxBody) (row : i.unread = bodies.flatMap frame) :
    ∃ last, Yields i (bodies.map .frame ++ [.finished]) last := by
  induction bodies generalizing i with
  | nil =>
    obtain ⟨j, next⟩ := next_over goes closed row
    exact ⟨j, .finished next⟩
  | cons body bodies ih =>
    rw [List.flatMap_cons] at row
    have next := next_whole goes fits (small body (List.mem_cons_self ..)) row
    obtain ⟨last, rest⟩ := ih (i := { i with reader := ⟨none, bodies.flatMap frame⟩ }) goes closed nofun
      (fun b member => small b (List.mem_cons_of_mem _ member)) rfl
    exact ⟨last, .frame next rest⟩

private theorem transcript_frames {bodies chunks : List Bytes} (small : ∀ body ∈ bodies, body.length ≤ maxBody)
    (row : chunks.flatten = bodies.flatMap frame) :
    (transcript {} (chunks.map .bytes ++ [.close])).flatten = bodies.map .frame ++ [.finished] := by
  obtain ⟨last, yields⟩ := yields_frames (i := ({} : Inlet).ends chunks.flatten) rfl rfl nofun small row
  exact yields.transcript rfl rfl

end Inlet

/-- What a reader of messages gets. -/
inductive Received (Message : Type) where
  | message (message : Message)
  /-- A frame holds no message. -/
  | unreadable
  | failed (failure : Failure)
  /-- The stream is over. -/
  | ended
  deriving DecidableEq

variable {Message : Type}

def Item.received (decode? : Bytes → Option Message) : Item → Option (Received Message)
  | .frame body => some (((decode? body).map .message).getD .unreadable)
  | .failed failure => some (.failed failure)
  | .finished => some .ended
  | .pending => none

/-- All that is received of a stream that arrives in these pieces and is closed then. -/
def received (decode? : Bytes → Option Message) (chunks : List Bytes) : List (Received Message) :=
  (Inlet.transcript {} (chunks.map .bytes ++ [.close])).flatten.filterMap (Item.received decode?)

/-- Messages that are sent in turn on one connection, with a reader at the other end of it. -/
structure Delivered (encode : Message → Bytes) (decode? : Bytes → Option Message) (messages : List Message) : Prop where
  /-- A message of more than 2^20 bytes is refused as a failure of output. -/
  limit : maxBody = 1024 * 1024 ∧ Failure.oversized.fault.kind = .ioError
  /-- A message is written, or it is refused and the next one is sent as if it had not been there. -/
  outcomes : Outlet.sendAll {} (messages.map encode) = (messages.map fun m => sent (encode m), {})
  /-- Those that were written are received in order, and then the end, however the bytes are cut. -/
  arrivals : ∀ chunks, chunks.flatten = written (Outlet.sendAll {} (messages.map encode)).1 →
    received decode? chunks = (messages.filter fun m => (encode m).length ≤ maxBody).map .message ++ [.ended]

private theorem delivered {encode : Message → Bytes} {decode? : Bytes → Option Message} {messages : List Message}
    (reads : ∀ m ∈ messages, decode? (encode m) = some m) : Delivered encode decode? messages where
  limit := ⟨rfl, rfl⟩
  outcomes := by
    rw [Outlet.sendAll_present, List.map_map]
    rfl
  arrivals chunks row := by
    rw [Outlet.sendAll_present, written_sent] at row
    have small : ∀ body ∈ (messages.map encode).filter (·.length ≤ maxBody), body.length ≤ maxBody :=
      fun body member => of_decide_eq_true (List.mem_filter.mp member).2
    have each : ∀ m ∈ messages.filter fun m => (encode m).length ≤ maxBody,
        Item.received decode? (.frame (encode m)) = some (.message m) := by
      intro m member
      simp [Item.received, reads m (List.mem_filter.mp member).1]
    rw [received, Inlet.transcript_frames small row, List.filterMap_append, List.filter_map, List.map_map,
      List.filterMap_map]
    congr 1
    rw [← List.filterMap_eq_map]
    exact List.filterMap_congr each

end Lockstep.Frame

namespace Lockstep

/-- Requests and responses that are sent in turn are delivered: those that have more than 2^20 bytes are refused and
    leave nothing on the wire, and exactly the others arrive, in order, and then the end of the stream. -/
theorem messages_delivered :
    (∀ requests : List Request, (∀ r ∈ requests, r.Small) →
        Frame.Delivered Request.encode Request.decode? requests) ∧
      ∀ responses : List Response, (∀ r ∈ responses, r.Small) →
        Frame.Delivered Response.encode Response.decode? responses := by
  constructor
  · intro requests small
    exact Frame.delivered fun r member => Request.decode?_encode (small r member)
  · intro responses small
    exact Frame.delivered fun r member => Response.decode?_encode (small r member)

/-- Byte by byte, and so also with a character cut in two. The second request is too long for a frame. -/
theorem messages_delivered_bytewise :
    let key : PartitionKey := ⟨"é\"\\\n", "\x01😀"⟩
    let long : PartitionKey := ⟨String.ofList (List.replicate (Frame.maxBody + 1) 'x'), ""⟩
    let requests := [Request.getBarrier key, .getBarrier long, .wait 7 (some Json.maxNatural)]
    let responses := [Response.error .barrierBroken "é😀", .ok]
    (∀ r ∈ requests, r.Small) ∧ (∀ r ∈ responses, r.Small) ∧
      Frame.received Request.decode? ((Frame.written (Frame.Outlet.sendAll {} (requests.map Request.encode)).1).map ([·])) =
        [.message (.getBarrier key), .message (.wait 7 (some Json.maxNatural)), .ended] ∧
      Frame.received Response.decode?
          ((Frame.written (Frame.Outlet.sendAll {} (responses.map Response.encode)).1).map ([·])) =
        [.message (.error .barrierBroken "é😀"), .message .ok, .ended] := by
  intro key long requests responses
  have small : ∀ r ∈ requests, r.Small := by simp [requests, Request.Small, Json.maxNatural]
  have small' : ∀ r ∈ responses, r.Small := by simp [responses, Response.Small]
  have bytewise : ∀ bytes : Bytes, (bytes.map ([·])).flatten = bytes :=
    fun bytes => (List.flatMap_def ..).symm.trans (List.flatMap_singleton' bytes)
  have first : (Request.getBarrier key).encode.length ≤ Frame.maxBody := by decide +kernel
  have refused : ¬ (Request.getBarrier long).encode.length ≤ Frame.maxBody := Request.encode_long (by simp [long])
  have last : (Request.wait 7 (some Json.maxNatural)).encode.length ≤ Frame.maxBody := by decide +kernel
  have error : (Response.error .barrierBroken "é😀").encode.length ≤ Frame.maxBody := by decide +kernel
  have ok : Response.ok.encode.length ≤ Frame.maxBody := by decide +kernel
  refine ⟨small, small', ?_, ?_⟩
  · rw [(messages_delivered.1 requests small).arrivals _ (bytewise _)]
    simp [requests, first, refused, last]
  · rw [(messages_delivered.2 responses small').arrivals _ (bytewise _)]
    simp [responses, error, ok]

end Lockstep
