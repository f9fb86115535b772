import Lockstep.Proofs.Message.Delivery

/-!
# How streams end

A stream is a row of whole frames and then, perhaps, the beginning of another one.
Its reader gets the frames one by one, in whatever pieces their bytes arrive, and
then the end. The end is told as a clean one when nothing is left behind the
frames, but also when the length of a body is left and no byte of this body
(`received_at_close`).
-/
namespace Lockstep.Frame

/-- A stream is these whole frames, and no whole frame comes behind them. -/
structure Split (stream : Bytes) (bodies : List Bytes) (rest : Bytes) : Prop where
  bytes : stream = bodies.flatMap frame ++ rest
  small : ∀ body ∈ bodies, body.length ≤ maxBody
  unfinished : ∀ body more, body.length ≤ maxBody → rest ≠ frame body ++ more

variable {stream rest rest' : Bytes} {bodies bodies' : List Bytes}

theorem Split.unique (split : Split stream bodies rest) (split' : Split stream bodies' rest') :
    bodies' = bodies ∧ rest' = rest := by
  obtain ⟨rfl, small, unfinished⟩ := split
  obtain ⟨same, small', unfinished'⟩ := split'
  induction bodies generalizing bodies' with
  | nil =>
    cases bodies' with
    | nil => exact ⟨rfl, same.symm⟩
    | cons body bodies' =>
      rw [List.flatMap_cons, List.append_assoc] at same
      exact absurd same (unfinished _ _ (small' body (List.mem_cons_self ..)))
  | cons body bodies ih =>
    cases bodies' with
    | nil =>
      rw [List.flatMap_cons, List.append_assoc] at same
      exact absurd same.symm (unfinished' _ _ (small body (List.mem_cons_self ..)))
    | cons body' bodies' =>
      rw [List.flatMap_cons, List.append_assoc, List.flatMap_cons, List.append_assoc] at same
      obtain ⟨rfl, others⟩ := frame_append_inj (small body (List.mem_cons_self ..))
        (small' body' (List.mem_cons_self ..)) same
      obtain ⟨rfl, rfl⟩ := ih (fun b member => small b (List.mem_cons_of_mem _ member)) others
        fun b member => small' b (List.mem_cons_of_mem _ member)
      exact ⟨rfl, rfl⟩

/-- No whole frame comes at all. -/
theorem Split.nothing (unfinished : ∀ body more, body.length ≤ maxBody → stream ≠ frame body ++ more) :
    Split stream [] stream :=
  ⟨rfl, by simp, unfinished⟩

theorem Split.cons {body : Bytes} (small : body.length ≤ maxBody) (split : Split stream bodies rest) :
    Split (frame body ++ stream) (body :: bodies) rest where
  bytes := by rw [split.bytes, List.flatMap_cons, List.append_assoc]
  small := by
    intro b member
    rcases List.mem_cons.mp member with rfl | other
    · exact small
    · exact split.small b other
  unfinished := split.unfinished

/-- What comes out of a stream behind its whole frames, when these bytes are left and it is closed. -/
def ending (rest : Bytes) : List Item :=
  match rest with
  | [] => [.finished]
  | a :: b :: c :: d :: part =>
    if maxBody < lengthOf a b c d then [.failed .oversized, .finished]
    else if part.isEmpty then [.finished]
    else [.failed .cut, .finished]
  | _ => [.failed .cut, .finished]

theorem ending_of_length {length : Nat} (known : length < 0x100000000) (part : Bytes) :
    ending (lengthBytes length ++ part) =
      if maxBody < length then [.failed .oversized, .finished]
      else if part.isEmpty then [.finished]
      else [.failed .cut, .finished] := by
  simp only [lengthBytes, List.cons_append, List.nil_append, ending, lengthOf_lengthBytes known]

theorem ending_of_short (short : rest.length < 4) :
    ending rest = if rest.isEmpty then [.finished] else [.failed .cut, .finished] := by
  match rest with
  | [] | [_] | [_, _] | [_, _, _] => rfl
  | _ :: _ :: _ :: _ :: _ =>
    simp only [List.length_cons] at short
    omega

/-- Bytes are too few for a length, or they begin with one. -/
private theorem short_or_length (rest : Bytes) :
    rest.length < 4 ∨ ∃ length part, length < 0x100000000 ∧ rest = lengthBytes length ++ part := by
  match rest with
  | [] | [_] | [_, _] | [_, _, _] => exact .inl (by simp)
  | a :: b :: c :: d :: part =>
    refine .inr ⟨lengthOf a b c d, part, lengthOf_lt .., ?_⟩
    rw [lengthBytes_lengthOf]
    rfl

/-- The end is told as a clean one exactly when nothing is left, or the length of a body alone. -/
private theorem ending_eq_finished_iff :
    ending rest = [.finished] ↔ rest = [] ∨ ∃ length ≤ maxBody, rest = lengthBytes length := by
  constructor
  · intro clean
    rcases short_or_length rest with short | ⟨length, part, known, rfl⟩
    · rw [ending_of_short short] at clean
      split at clean
      · exact .inl (List.isEmpty_iff.mp ‹_›)
      · cases clean
    · rw [ending_of_length known] at clean
      split_ifs at clean with big empty
      · cases clean
      · rw [List.isEmpty_iff.mp empty, List.append_nil]
        exact .inr ⟨length, Nat.le_of_not_lt big, rfl⟩
      · cases clean
  · rintro (rfl | ⟨length, fits, rfl⟩)
    · rfl
    · rw [← List.append_nil (lengthBytes length), ending_of_length (lt_of_fits fits), if_neg (Nat.not_lt.mpr fits)]
      rfl

private theorem ending_cases (rest : Bytes) :
    ending rest = [.finished] ∨ ∃ failure, ending rest = [.failed failure, .finished] := by
  unfold ending
  split
  · exact .inl rfl
  · split_ifs
    · exact .inr ⟨_, rfl⟩
    · exact .inl rfl
    · exact .inr ⟨_, rfl⟩
  · exact .inr ⟨_, rfl⟩

/-- With less than four bytes no length was read. -/
private theorem Reader.buffer_of_short {r : Reader} (short : r.unread.length < 4) : r.buffer = r.unread := by
  obtain ⟨expected, buffer⟩ := r
  cases expected with
  | none => rfl
  | some length =>
    simp only [unread, Option.map_some, Option.getD_some, lengthBytes, List.length_append, List.length_cons] at short
    omega

namespace Inlet

variable {i : Inlet}

/-- A stream that is closed yields its end when its reader has not found a whole frame. -/
private theorem yields_ending {starved : Reader} (goes : i.failed = false) (closed : i.closed = true)
    (read : i.reader.read = .starved starved) (ends : ending i.unread =
      if starved.buffer.isEmpty then [.finished] else [.failed .cut, .finished]) :
    ∃ last, Yields i (ending i.unread) last := by
  rw [ends]
  split_ifs with empty
  · have next : i.next = (.finished, { i with reader := starved }) := by simp [next, goes, read, closed, empty]
    exact ⟨_, .finished next⟩
  · have next : i.next = (.failed .cut, { i with reader := starved, failed := true }) := by
      simp [next, goes, read, closed, empty]
    exact ⟨_, yields_failed next rfl⟩

/-- A stream that is closed yields its whole frames and then its end. -/
theorem yields_split (goes : i.failed = false) (closed : i.closed = true) (fits : i.reader.Fits) :
    ∃ bodies rest last, Split i.unread bodies rest ∧ Yields i (bodies.map .frame ++ ending rest) last := by
  induction size : i.unread.length using Nat.strong_induction_on generalizing i with
  | _ n ih =>
    rcases i.reader.read_cases fits with ⟨length, buffer, bytes, small, read⟩ | ⟨short, read⟩ |
      ⟨length, buffer, bytes, big, known, read⟩
    · by_cases whole : length ≤ buffer.length
      · -- the first frame comes out, and what is left is shorter
        have taken : (buffer.take length).length = length := List.length_take_of_le whole
        have small' : (buffer.take length).length ≤ maxBody := by rwa [taken]
        have there : i.unread = frame (buffer.take length) ++ buffer.drop length := by
          rw [frame, taken, List.append_assoc, List.take_append_drop]
          exact bytes
        have shorter : (buffer.drop length).length < n := by
          rw [← size, there, List.length_append, frame, List.length_append]
          simp only [lengthBytes, List.length_cons]
          omega
        obtain ⟨bodies, rest, last, split, yields⟩ :=
          ih _ shorter (i := { i with reader := ⟨none, buffer.drop length⟩ }) goes closed Reader.fits_new rfl
        rw [there]
        exact ⟨_ :: bodies, rest, last, split.cons small', .frame (next_whole goes fits small' there) yields⟩
      · have starved : i.reader.read = .starved ⟨some length, buffer⟩ := by rw [read, Reader.readBody, if_neg whole]
        have begins : i.unread = lengthBytes length ++ buffer := bytes
        have ends := ending_of_length (lt_of_fits small) buffer
        rw [if_neg (Nat.not_lt.mpr small), ← begins] at ends
        obtain ⟨last, yields⟩ := yields_ending goes closed starved ends
        refine ⟨[], _, last, .nothing fun body more small' same => whole ?_, yields⟩
        obtain ⟨rfl, rfl⟩ := frame_begins (lt_of_fits small) small' (begins.symm.trans same)
        simp
    · have begins : i.unread.length < 4 := short
      have nothing : ∀ body more, body.length ≤ maxBody → i.unread ≠ frame body ++ more := by
        intro body more _ same
        rw [same] at begins
        simp only [frame, lengthBytes, List.length_append, List.length_cons] at begins
        omega
      obtain ⟨last, yields⟩ := yields_ending goes closed read <| by
        rw [ending_of_short begins, i.reader.buffer_of_short short]
        rfl
      exact ⟨[], _, last, .nothing nothing, yields⟩
    · have begins : i.unread = lengthBytes length ++ buffer := bytes
      have next : i.next = (.failed .oversized, { i with failed := true }) := by simp [next, goes, read]
      have ends := ending_of_length known buffer
      rw [if_pos big, ← begins] at ends
      refine ⟨[], i.unread, { i with failed := true }, .nothing fun body more small same => ?_, ?_⟩
      · obtain ⟨rfl, _⟩ := frame_begins known small (begins.symm.trans same)
        omega
      · rw [ends]
        exact yields_failed next rfl

end Inlet

variable {Message : Type}

/-- What a reader of messages gets for a frame with this body. -/
def messageIn (decode? : Bytes → Option Message) (body : Bytes) : Received Message :=
  ((decode? body).map .message).getD .unreadable

/-- What a reader of messages gets behind the whole frames of a stream that is closed, when these bytes are left. -/
inductive Told : Bytes → List (Received Message) → Prop
  | clean : Told [] [.ended]
  /-- The reader took the length off, and so no byte is left. -/
  | length {length : Nat} : 0 < length → length ≤ maxBody → Told (lengthBytes length) [.ended]
  | failed {rest : Bytes} (failure : Failure) : rest ≠ [] → (∀ length ≤ maxBody, rest ≠ lengthBytes length) →
      Told rest [.failed failure, .ended]

/-- Whatever the bytes of a stream are, however they are cut and wherever the stream is closed: every whole frame
    gives one message or tells that it holds none, in order, and what is told then depends on the bytes behind the
    whole frames. -/
theorem received_at_close (decode? : Bytes → Option Message) (chunks : List Bytes) :
    ∃ bodies rest, Split chunks.flatten bodies rest ∧
      (∀ bodies' rest', Split chunks.flatten bodies' rest' → bodies' = bodies ∧ rest' = rest) ∧
      ∃ told, Told rest told ∧ received decode? chunks = bodies.map (messageIn decode?) ++ told := by
  obtain ⟨bodies, rest, last, split, yields⟩ :=
    Inlet.yields_split (i := ({} : Inlet).ends chunks.flatten) rfl rfl Reader.fits_new
  have whole : (({} : Inlet).ends chunks.flatten).unread = chunks.flatten := by
    simp [Inlet.ends, Inlet.close, Inlet.push, Inlet.unread, Reader.push, Reader.unread]
  rw [whole] at split
  have each : (bodies.map Item.frame).filterMap (Item.received decode?) = bodies.map (messageIn decode?) := by
    rw [List.filterMap_map, ← List.filterMap_eq_map]
    rfl
  refine ⟨bodies, rest, split, fun _ _ split' => split.unique split',
    (ending rest).filterMap (Item.received decode?), ?_, ?_⟩
  · have clean_iff : ending rest = [.finished] ↔ _ := ending_eq_finished_iff
    rcases ending_cases rest with clean | ⟨failure, failed⟩
    · rcases clean_iff.mp clean with rfl | ⟨length, fits, rfl⟩
      · exact .clean
      · have some : 0 < length := by
          -- a length of nothing would be a whole frame
          refine Nat.pos_of_ne_zero fun none => split.unfinished [] [] (Nat.zero_le _) ?_
          rw [none]
          rfl
        rw [clean]
        exact .length some fits
    · rw [failed] at clean_iff ⊢
      have unclean : ¬ (rest = [] ∨ ∃ length ≤ maxBody, rest = lengthBytes length) := by
        intro clean
        cases clean_iff.mpr clean
      exact .failed failure (fun nothing => unclean (.inl nothing))
        fun length fits same => unclean (.inr ⟨length, fits, same⟩)
  · rw [received, yields.transcript rfl rfl, List.filterMap_append, each]

/-- The length of a body of 26 bytes is all that comes, and it is told as a clean end: nothing tells that a frame
    was begun. -/
theorem received_length_alone :
    (∃ body missing, body.length ≤ maxBody ∧ missing ≠ [] ∧ [0, 0, 0, 26] ++ missing = frame body) ∧
      received Request.decode? [[0, 0, 0, 26]] = received Request.decode? [] ∧
      received Request.decode? [] = [.ended] :=
  ⟨⟨List.replicate 26 0, List.replicate 26 0, by decide, by decide, by decide⟩, by decide, by decide⟩

end Lockstep.Frame
