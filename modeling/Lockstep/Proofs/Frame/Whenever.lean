import Lockstep.Proofs.Frame.Endings
import Mathlib.Tactic.SplitIfs

/-!
# Readers and the arrival of bytes

A reader may look at a stream at any moment, and its bytes may arrive in any
pieces. What it gets up to the end is a matter of the bytes alone
(`Inlet.Reading.yields`): each whole frame gives one message or tells that it
holds none, and a stream that stops inside a frame, or at a length that is too
big, fails once (`reading_independent`).
-/
namespace Lockstep.Frame

namespace Inlet

variable {i j last whole : Inlet} {rest : List Chunk} {items : List Item}

/-- A stream is read up to its end while these pieces of it still arrive. Between two of them the reader takes as many
    items as it likes, and it may find that there is nothing yet. -/
inductive Reading : Inlet → List Chunk → List Item → Prop
  | arrival {i : Inlet} {c : Chunk} {rest : List Chunk} {items : List Item} : Reading (i.receive c) rest items →
      Reading i (c :: rest) items
  | nothing {i j : Inlet} {rest : List Chunk} {items : List Item} : i.next = (.pending, j) → Reading j rest items →
      Reading i rest items
  | frame {i j : Inlet} {rest : List Chunk} {body : Bytes} {items : List Item} : i.next = (.frame body, j) →
      Reading j rest items → Reading i rest (.frame body :: items)
  | failed {i j : Inlet} {rest : List Chunk} {failure : Failure} {items : List Item} : i.next = (.failed failure, j) →
      Reading j rest items → Reading i rest (.failed failure :: items)
  | finished {i j : Inlet} {rest : List Chunk} : i.next = (.finished, j) → Reading i rest [.finished]

/-- A stream to which these pieces still come is this one when all of them have come: bytes and then the end, or
    nothing when it is closed. -/
inductive Becomes : Inlet → List Chunk → Inlet → Prop
  | closed {i : Inlet} : i.closed = true → Becomes i [] i
  | open {i : Inlet} (chunks : List Bytes) : i.closed = false →
      Becomes i (chunks.map .bytes ++ [.close]) (i.ends chunks.flatten)

private theorem Becomes.receive {c : Chunk} (becomes : Becomes i (c :: rest) whole) :
    Becomes (i.receive c) rest whole := by
  generalize pieces : c :: rest = all at becomes
  cases becomes with
  | closed => cases pieces
  | «open» chunks goes =>
    cases chunks with
    | nil =>
      cases pieces
      have same : i.ends [] = i.close := by simp [ends, push, Reader.push]
      rw [List.flatten_nil, same]
      exact .closed rfl
    | cons chunk chunks =>
      cases pieces
      rw [List.flatten_cons, ← push_ends]
      exact .open chunks goes

/-- Nothing comes out of a stream behind a failure. -/
private theorem Reading.over (reading : Reading i rest items) (stuck : i.failed = true) : items = [.finished] := by
  induction reading with
  | @arrival i c _ _ _ ih =>
    apply ih
    cases c with
    | bytes => exact stuck
    | close => exact stuck
  | nothing found | frame found | failed found =>
    rw [next_of_failed stuck] at found
    cases found
  | finished => rfl

/-- What a reader gets is what all the bytes yield at once. -/
private theorem Reading.yields (reading : Reading i rest items) (becomes : Becomes i rest whole) :
    ∃ last, Yields whole items last := by
  induction reading generalizing whole with
  | arrival _ ih => exact ih becomes.receive
  | nothing found rest ih =>
    cases becomes with
    | closed shut =>
      -- where nothing more can come, a reader is never told to wait
      rcases next_split _ with ⟨_, _, _, _, next⟩ | ⟨_, _, goes, _, _⟩ | ⟨_, _, _, _, _, _, next⟩ | ⟨_, _, _, next⟩
      · rw [next] at found
        cases found
      · rw [shut] at goes
        cases goes
      · rw [next] at found
        cases found
      · rw [next] at found
        cases found
    | «open» chunks goes =>
      obtain ⟨_, _, _, rfl⟩ := of_next_pending found
      obtain ⟨last, yields⟩ := ih (.open chunks goes)
      exact ends_pending found chunks.flatten yields
  | frame found rest ih =>
    obtain ⟨_, _, _, rfl⟩ := of_next_frame found
    cases becomes with
    | closed shut =>
      obtain ⟨last, yields⟩ := ih (.closed shut)
      exact ⟨last, .frame found yields⟩
    | «open» chunks goes =>
      obtain ⟨last, yields⟩ := ih (.open chunks goes)
      exact ⟨last, .frame (ends_frame found chunks.flatten) yields⟩
  | failed found rest ih =>
    obtain ⟨unfailed, big, stuck, _⟩ := of_next_failed found
    rw [rest.over stuck]
    cases becomes with
    | closed => exact ⟨_, yields_failed found stuck⟩
    | «open» chunks goes =>
      obtain ⟨read, rfl⟩ := big goes
      exact ends_oversized unfailed (Reader.read_push_oversized read chunks.flatten)
  | @finished i j _ found =>
    cases becomes with
    | closed => exact ⟨j, .finished found⟩
    | «open» chunks goes =>
      have stuck : (i.ends chunks.flatten).failed = true := (of_next_finished found).1 goes
      exact ⟨_, .finished (next_of_failed stuck)⟩

end Inlet

variable {stream rest : Bytes} {bodies before : List Bytes} {failure : Failure}

private theorem exists_split (stream : Bytes) : ∃ bodies rest, Split stream bodies rest := by
  obtain ⟨bodies, rest, _, split, _⟩ :=
    Inlet.yields_split (i := ({} : Inlet).ends stream) rfl rfl Reader.fits_new
  have whole : (({} : Inlet).ends stream).unread = stream := by
    simp [Inlet.ends, Inlet.close, Inlet.push, Inlet.unread, Reader.push, Reader.unread]
  rw [whole] at split
  exact ⟨bodies, rest, split⟩

private theorem Split.append (split : Split stream bodies rest) (small : ∀ body ∈ before, body.length ≤ maxBody) :
    Split (before.flatMap frame ++ stream) (before ++ bodies) rest := by
  induction before with
  | nil => exact split
  | cons body before ih =>
    have others := ih fun b member => small b (List.mem_cons_of_mem _ member)
    rw [List.flatMap_cons, List.append_assoc]
    exact others.cons (small body (List.mem_cons_self ..))

/-- What comes out of a stream, by its whole frames and what is left behind them. -/
private theorem Split.yields (split : Split stream bodies rest) :
    ∃ last, Inlet.Yields (({} : Inlet).ends stream) (bodies.map .frame ++ ending rest) last := by
  obtain ⟨bodies', rest', last, split', yields⟩ :=
    Inlet.yields_split (i := ({} : Inlet).ends stream) rfl rfl Reader.fits_new
  have whole : (({} : Inlet).ends stream).unread = stream := by
    simp [Inlet.ends, Inlet.close, Inlet.push, Inlet.unread, Reader.push, Reader.unread]
  rw [whole] at split'
  obtain ⟨rfl, rfl⟩ := split.unique split'
  exact ⟨last, yields⟩

/-- Reading fails at these bytes when the stream ends behind them. -/
inductive Stops : Bytes → Failure → Prop
  /-- They begin with a length that is too big. -/
  | oversized {length : Nat} (part : Bytes) : maxBody < length → length < 0x100000000 →
      Stops (lengthBytes length ++ part) .oversized
  /-- They are some bytes of a length and not all. -/
  | length {rest : Bytes} : rest ≠ [] → rest.length < 4 → Stops rest .cut
  /-- They are a length and some bytes of the body, and not all. -/
  | body {length : Nat} {part : Bytes} : part ≠ [] → part.length < length → length ≤ maxBody →
      Stops (lengthBytes length ++ part) .cut

namespace Stops

private theorem split (stops : Stops rest failure) : Split rest [] rest := by
  apply Split.nothing
  intro body more small same
  cases stops with
  | oversized part big known =>
    obtain ⟨rfl, _⟩ := frame_begins known small same
    omega
  | length some short =>
    rw [same] at short
    simp only [frame, lengthBytes, List.length_append, List.length_cons] at short
    omega
  | body some short fits =>
    obtain ⟨rfl, rfl⟩ := frame_begins (lt_of_fits fits) small same
    rw [List.length_append] at short
    omega

private theorem ending (stops : Stops rest failure) : ending rest = [.failed failure, .finished] := by
  cases stops with
  | oversized part big known => rw [ending_of_length known, if_pos big]
  | length some short => rw [ending_of_short short, if_neg (by simpa using some)]
  | body some short fits =>
    rw [ending_of_length (lt_of_fits fits), if_neg (Nat.not_lt.mpr fits), if_neg (by simpa using some)]

end Stops

variable {Message : Type}

private theorem Split.received (decode? : Bytes → Option Message) (split : Split stream bodies rest)
    {chunks : List Bytes} (pieces : chunks.flatten = stream) :
    received decode? chunks = bodies.map (messageIn decode?) ++ (ending rest).filterMap (Item.received decode?) := by
  obtain ⟨last, yields⟩ := split.yields
  have each : (bodies.map Item.frame).filterMap (Item.received decode?) = bodies.map (messageIn decode?) := by
    rw [List.filterMap_map, ← List.filterMap_eq_map]
    rfl
  rw [Frame.received, yields.transcript rfl pieces, List.filterMap_append, each]

/-- What a reader of messages gets of a stream does not depend on how its bytes arrive. -/
structure Independent (decode? : Bytes → Option Message) (stream : Bytes) : Prop where
  alike : ∀ chunks chunks' : List Bytes, chunks.flatten = stream → chunks'.flatten = stream →
    received decode? chunks = received decode? chunks'
  /-- Nor on when the reader looks. -/
  whenever : ∀ (chunks : List Bytes) (items : List Item), chunks.flatten = stream →
    Inlet.Reading {} (chunks.map .bytes ++ [.close]) items →
    items.filterMap (Item.received decode?) = received decode? [stream]
  /-- A frame is one message, or one frame that holds none, whatever the frames around it are: reading goes on behind
      it as at the start of a stream. -/
  frames : ∀ (bodies : List Bytes) (rest : Bytes), (∀ body ∈ bodies, body.length ≤ maxBody) →
    stream = bodies.flatMap frame ++ rest →
    received decode? [stream] =
      bodies.map (fun body => match decode? body with
        | some message => .message message
        | none => .unreadable) ++ received decode? [rest]
  /-- Where reading fails, it fails once, with a failure of input, and nothing else is received. -/
  stops : ∀ (failure : Failure), Stops stream failure →
    received decode? [stream] = [.failed failure, .ended] ∧ failure.fault.kind = .ioError

/-- Every byte string, in whatever pieces it arrives and whenever its reader looks, is read as the same messages,
    frames that hold none and failures. -/
theorem reading_independent (decode? : Bytes → Option Message) (stream : Bytes) : Independent decode? stream where
  alike := by
    intro chunks chunks' pieces pieces'
    obtain ⟨bodies, rest, split⟩ := exists_split stream
    rw [split.received decode? pieces, split.received decode? pieces']
  whenever := by
    rintro chunks items rfl reading
    obtain ⟨last, yields⟩ := reading.yields (.open chunks rfl)
    rw [received, yields.transcript rfl List.flatten_singleton]
  frames := by
    rintro bodies rest small rfl
    obtain ⟨others, left, split⟩ := exists_split rest
    have both := split.append small
    rw [both.received decode? List.flatten_singleton, split.received decode? List.flatten_singleton,
      List.map_append, List.append_assoc]
    congr 1
    apply List.map_congr_left
    intro body _
    cases read : decode? body <;> simp [messageIn, read]
  stops := by
    intro failure stops
    constructor
    · rw [stops.split.received decode? List.flatten_singleton, stops.ending]
      rfl
    · cases failure <;> rfl

/-- A frame that holds no message costs nothing but itself, and a length that is too big is the end. -/
example :
    let stream := frame [123] ++ frame Response.ok.encode ++ [0, 16, 0, 1, 5]
    received Response.decode? (stream.map ([·])) = [.unreadable, .message .ok, .failed .oversized, .ended] := by
  decide +kernel

end Lockstep.Frame
