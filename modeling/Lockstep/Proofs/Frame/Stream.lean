import Lockstep.Frame

namespace Lockstep.Frame

/-- The bytes of the frame with this body. -/
def frame (body : Bytes) : Bytes :=
  lengthBytes body.length ++ body

theorem encode_eq {body : Bytes} (fits : body.length ≤ maxBody) : encode body = .ok (frame body) := by
  simp [encode, frame, fits]

theorem lengthOf_lt (a b c d : UInt8) : lengthOf a b c d < 0x100000000 := by
  have := a.toNat_lt
  have := b.toNat_lt
  have := c.toNat_lt
  have := d.toNat_lt
  unfold lengthOf
  omega

theorem lengthBytes_lengthOf (a b c d : UInt8) : lengthBytes (lengthOf a b c d) = [a, b, c, d] := by
  have digit : ∀ (n : Nat) (e : UInt8), n % 256 = e.toNat → UInt8.ofNat n = e := by
    intro n e same
    apply UInt8.toNat_inj.mp
    rw [UInt8.toNat_ofNat', same]
  have := a.toNat_lt
  have := b.toNat_lt
  have := c.toNat_lt
  have := d.toNat_lt
  unfold lengthBytes lengthOf
  rw [digit _ a (by omega), digit _ b (by omega), digit _ c (by omega), digit _ d (by omega)]

private theorem lengthBytes_inj {m n : Nat} (small : m < 0x100000000) (small' : n < 0x100000000)
    (same : lengthBytes m = lengthBytes n) : m = n := by
  have digits : ∀ {k l : Nat}, UInt8.ofNat k = UInt8.ofNat l → k % 256 = l % 256 := by
    intro k l same
    simpa using congrArg UInt8.toNat same
  simp only [lengthBytes, List.cons.injEq, and_true] at same
  obtain ⟨a, b, c, d⟩ := same
  have := digits a
  have := digits b
  have := digits c
  have := digits d
  omega

theorem lt_of_fits {n : Nat} (small : n ≤ maxBody) : n < 0x100000000 := by
  unfold maxBody at small
  omega

theorem lengthOf_lengthBytes {n : Nat} (small : n < 0x100000000) :
    lengthOf (UInt8.ofNat (n / 0x1000000)) (UInt8.ofNat (n / 0x10000)) (UInt8.ofNat (n / 0x100)) (UInt8.ofNat n) = n :=
  lengthBytes_inj (lengthOf_lt ..) small (lengthBytes_lengthOf ..)

/-- Bytes that begin with a length and with a whole frame: the length is that of the frame. -/
theorem frame_begins {length : Nat} {buffer body more : Bytes} (known : length < 0x100000000)
    (small : body.length ≤ maxBody) (same : lengthBytes length ++ buffer = frame body ++ more) :
    body.length = length ∧ buffer = body ++ more := by
  rw [frame, List.append_assoc] at same
  obtain ⟨lengths, rest⟩ := List.append_inj same rfl
  exact ⟨(lengthBytes_inj known (lt_of_fits small) lengths).symm, rest⟩

/-- Two rows of frames that begin with the same bytes begin with the same frame. -/
theorem frame_append_inj {a b x y : Bytes} (small : a.length ≤ maxBody) (small' : b.length ≤ maxBody)
    (same : frame a ++ x = frame b ++ y) : a = b ∧ x = y := by
  simp only [frame, List.append_assoc] at same
  obtain ⟨lengths, rest⟩ := List.append_inj same rfl
  exact List.append_inj rest (lengthBytes_inj (lt_of_fits small) (lt_of_fits small') lengths)

/-- What was read of a row of frames are the first of them, and the others are left. -/
theorem frames_of_prefix {read frames : List Bytes} {rest : Bytes} (small : ∀ body ∈ read, body.length ≤ maxBody)
    (small' : ∀ body ∈ frames, body.length ≤ maxBody) (same : read.flatMap frame ++ rest = frames.flatMap frame) :
    ∃ left, frames = read ++ left ∧ rest = left.flatMap frame := by
  induction read generalizing frames with
  | nil => exact ⟨frames, rfl, same⟩
  | cons body read ih =>
    cases frames with
    | nil => simp [frame, lengthBytes] at same
    | cons body' frames =>
      rw [List.flatMap_cons, List.flatMap_cons, List.append_assoc] at same
      obtain ⟨rfl, others⟩ := frame_append_inj (small body (List.mem_cons_self ..))
        (small' body' (List.mem_cons_self ..)) same
      obtain ⟨left, rfl, rest⟩ := ih (fun b member => small b (List.mem_cons_of_mem _ member))
        (fun b member => small' b (List.mem_cons_of_mem _ member)) others
      exact ⟨left, rfl, rest⟩

/-- The bytes begin with so many whole frames. -/
def Carries (bytes : Bytes) (count : Nat) : Prop :=
  ∃ (bodies : List Bytes) (rest : Bytes), bytes = bodies.flatMap frame ++ rest ∧
    (∀ body ∈ bodies, body.length ≤ maxBody) ∧ bodies.length = count

theorem Carries.append {bytes : Bytes} {count : Nat} (carries : Carries bytes count) (more : Bytes) :
    Carries (bytes ++ more) count := by
  obtain ⟨bodies, rest, rfl, small, length⟩ := carries
  exact ⟨bodies, rest ++ more, List.append_assoc .., small, length⟩

theorem Carries.first {bytes : Bytes} {count : Nat} (carries : Carries bytes (count + 1)) :
    ∃ body rest, bytes = frame body ++ rest ∧ body.length ≤ maxBody ∧ Carries rest count := by
  obtain ⟨bodies, rest, rfl, small, length⟩ := carries
  match bodies with
  | body :: bodies =>
    refine ⟨body, bodies.flatMap frame ++ rest, by simp, small body (List.mem_cons_self ..), bodies, rest, rfl, ?_, ?_⟩
    · exact fun b member => small b (List.mem_cons_of_mem _ member)
    · simpa using length

namespace Reader

variable {r rest : Reader} {body : Bytes}

/-- The bytes that were received and that no frame was made of. -/
def unread (r : Reader) : Bytes :=
  (r.expected.map lengthBytes).getD [] ++ r.buffer

/-- A length that was read is not too big. -/
def Fits (r : Reader) : Prop :=
  ∀ length, r.expected = some length → length ≤ maxBody

@[simp] theorem unread_push (r : Reader) (bytes : Bytes) : (r.push bytes).unread = r.unread ++ bytes := by
  simp [unread, push]

theorem Fits.push (fits : r.Fits) (bytes : Bytes) : (r.push bytes).Fits := fits

theorem fits_new : Reader.Fits {} := fun _ none => nomatch none

theorem readBody_frame {length : Nat} {buffer : Bytes} (found : readBody length buffer = .frame body rest) :
    body.length = length ∧ rest.expected = none ∧ buffer = body ++ rest.buffer := by
  unfold readBody at found
  split at found
  · rename_i whole
    cases found
    exact ⟨List.length_take_of_le whole, rfl, (List.take_append_drop ..).symm⟩
  · cases found

theorem readBody_starved {length : Nat} {buffer : Bytes} (found : readBody length buffer = .starved rest) :
    rest = ⟨some length, buffer⟩ ∧ buffer.length < length := by
  unfold readBody at found
  split at found
  · cases found
  · cases found
    exact ⟨rfl, by omega⟩

/-- A reader knows the length of the body that comes next, or has less than four bytes, or the length is too big. -/
theorem read_cases (r : Reader) (fits : r.Fits) :
    (∃ length buffer, r.unread = lengthBytes length ++ buffer ∧ length ≤ maxBody ∧ r.read = readBody length buffer) ∨
      (r.unread.length < 4 ∧ r.read = .starved r) ∨
      ∃ length buffer, r.unread = lengthBytes length ++ buffer ∧ maxBody < length ∧ length < 0x100000000 ∧
        r.read = .oversized := by
  obtain ⟨expected, buffer⟩ := r
  cases expected with
  | some length => exact .inl ⟨length, buffer, rfl, fits length rfl, rfl⟩
  | none =>
    match buffer with
    | a :: b :: c :: d :: buffer =>
      have bytes : unread ⟨none, a :: b :: c :: d :: buffer⟩ = lengthBytes (lengthOf a b c d) ++ buffer := by
        rw [lengthBytes_lengthOf]
        rfl
      by_cases big : maxBody < lengthOf a b c d
      · exact .inr (.inr ⟨_, buffer, bytes, big, lengthOf_lt a b c d, by simp [read, big]⟩)
      · exact .inl ⟨_, buffer, bytes, Nat.le_of_not_lt big, by simp [read, big]⟩
    | [] | [_] | [_, _] | [_, _, _] => exact .inr (.inl ⟨by simp [unread], rfl⟩)

private theorem read_frame (fits : r.Fits) (found : r.read = .frame body rest) :
    r.unread = frame body ++ rest.unread ∧ body.length ≤ maxBody ∧ rest.expected = none := by
  rcases r.read_cases fits with ⟨length, buffer, bytes, small, read⟩ | ⟨_, read⟩ | ⟨_, _, _, _, _, read⟩
  · rw [read] at found
    obtain ⟨rfl, expected, rfl⟩ := readBody_frame found
    refine ⟨?_, small, expected⟩
    rw [bytes, frame, List.append_assoc, unread, expected]
    rfl
  · rw [read] at found
    cases found
  · rw [read] at found
    cases found

theorem read_starved (fits : r.Fits) (found : r.read = .starved rest) : rest.unread = r.unread ∧ rest.Fits := by
  rcases r.read_cases fits with ⟨length, buffer, bytes, small, read⟩ | ⟨_, read⟩ | ⟨_, _, _, _, _, read⟩
  · rw [read] at found
    obtain ⟨rfl, _⟩ := readBody_starved found
    refine ⟨bytes.symm, fun n same => ?_⟩
    cases same
    exact small
  · rw [read] at found
    cases found
    exact ⟨rfl, fits⟩
  · rw [read] at found
    cases found

/-- A frame that is there as a whole is read. -/
theorem read_whole {more : Bytes} (fits : r.Fits) (small : body.length ≤ maxBody)
    (there : r.unread = frame body ++ more) : r.read = .frame body ⟨none, more⟩ := by
  rcases r.read_cases fits with ⟨length, buffer, bytes, small', read⟩ | ⟨short, _⟩ | ⟨length, buffer, bytes, big, known, _⟩
  · obtain ⟨rfl, rfl⟩ := frame_begins (lt_of_fits small') small (bytes.symm.trans there)
    rw [read, readBody, if_pos (by simp)]
    simp
  · simp only [there, frame, lengthBytes, List.length_append, List.length_cons] at short
    omega
  · obtain ⟨rfl, _⟩ := frame_begins known small (bytes.symm.trans there)
    omega

/-- A frame of which a part is missing is not read. -/
theorem read_part {missing : Bytes} (fits : r.Fits) (small : body.length ≤ maxBody)
    (there : r.unread ++ missing = frame body) (part : missing ≠ []) : ∃ rest, r.read = .starved rest := by
  have begins : ∀ {length : Nat} {buffer : Bytes}, length < 0x100000000 → r.unread = lengthBytes length ++ buffer →
      body.length = length ∧ buffer ++ missing = body := by
    intro length buffer known bytes
    rw [bytes, List.append_assoc, ← List.append_nil (frame body)] at there
    simpa using frame_begins known small there
  rcases r.read_cases fits with ⟨length, buffer, bytes, small', read⟩ | ⟨_, read⟩ | ⟨length, buffer, bytes, big, known, _⟩
  · obtain ⟨lengths, rest⟩ := begins (lt_of_fits small') bytes
    have := List.length_pos_iff.mpr part
    rw [← rest, List.length_append] at lengths
    exact ⟨_, by rw [read, readBody, if_neg (by omega)]⟩
  · exact ⟨r, read⟩
  · obtain ⟨rfl, _⟩ := begins known bytes
    omega

end Reader

namespace Inlet

variable {i i' : Inlet} {body : Bytes}

def unread (i : Inlet) : Bytes :=
  i.reader.unread

theorem next_frame (fits : i.reader.Fits) (found : i.next = (.frame body, i')) :
    i.unread = frame body ++ i'.unread ∧ body.length ≤ maxBody ∧ i'.reader.Fits := by
  unfold next at found
  cases failed : i.failed with
  | true => simp [failed] at found
  | false =>
    cases read : i.reader.read with
    | frame body' rest =>
      simp only [failed, read, Bool.false_eq_true, if_false, Prod.mk.injEq, Item.frame.injEq] at found
      obtain ⟨rfl, rfl⟩ := found
      obtain ⟨bytes, small, expected⟩ := Reader.read_frame fits read
      exact ⟨bytes, small, fun length known => by rw [expected] at known; cases known⟩
    | starved rest => cases closed : i.closed <;> cases empty : rest.buffer.isEmpty <;> simp_all
    | oversized => simp [failed, read] at found

private theorem next_pending (fits : i.reader.Fits) (found : i.next = (.pending, i')) :
    i'.unread = i.unread ∧ i'.reader.Fits := by
  unfold next at found
  cases failed : i.failed with
  | true => simp [failed] at found
  | false =>
    cases read : i.reader.read with
    | frame body' rest => simp [failed, read] at found
    | oversized => simp [failed, read] at found
    | starved rest =>
      obtain ⟨bytes, fits'⟩ := Reader.read_starved fits read
      cases closed : i.closed with
      | true => cases empty : rest.buffer.isEmpty <;> simp [failed, read, closed, empty] at found
      | false =>
        simp only [failed, read, closed, Bool.false_eq_true, if_false, Bool.not_false, if_true, Prod.mk.injEq,
          true_and] at found
        rw [← found]
        exact ⟨bytes, fits'⟩

/-- The frame with this body, or none, is all that comes out of the stream when the bytes on their way have come in. -/
structure Holds (i : Inlet) (coming : Bytes) (body : Option Bytes) : Prop where
  fits : i.reader.Fits
  bytes : i.unread ++ coming = (body.map frame).getD []
  small : ∀ b, body = some b → b.length ≤ maxBody

/-- The stream goes on, and nothing was wrong with it. -/
def Open (i : Inlet) : Prop :=
  i.closed = false ∧ i.failed = false

theorem frame_ne_nil (body : Bytes) : frame body ≠ [] := by
  simp [frame, lengthBytes]

namespace Holds

variable {i i' : Inlet} {coming bytes : Bytes} {body : Option Bytes}

theorem fresh : Holds {} [] none :=
  ⟨Reader.fits_new, rfl, fun _ absent => nomatch absent⟩

private theorem empty (holds : Holds i coming none) : i.unread = [] ∧ coming = [] :=
  List.append_eq_nil_iff.mp holds.bytes

theorem push (holds : Holds i (bytes ++ coming) body) : Holds (i.push bytes) coming body where
  fits := holds.fits.push bytes
  bytes := by
    have whole := holds.bytes
    rw [← List.append_assoc] at whole
    rw [unread, Inlet.push, Reader.unread_push]
    exact whole
  small := holds.small

theorem close (holds : Holds i coming body) : Holds i.close coming body :=
  ⟨holds.fits, holds.bytes, holds.small⟩

/-- A frame is written to a stream in which there is none. -/
theorem write (holds : Holds i coming none) {b : Bytes} (small : b.length ≤ maxBody) :
    Holds i (coming ++ frame b) (some b) := by
  obtain ⟨nothing, arrived⟩ := holds.empty
  refine ⟨holds.fits, ?_, fun b' same => ?_⟩
  · rw [nothing, arrived]
    rfl
  · cases same
    exact small

/-- What comes out is the frame, when all of it has come in. -/
theorem of_frame (holds : Holds i coming body) {b : Bytes} (found : i.next = (.frame b, i')) :
    body = some b ∧ coming = [] ∧ Holds i' [] none := by
  obtain ⟨split, small, fits⟩ := next_frame holds.fits found
  have whole := holds.bytes
  rw [split, List.append_assoc] at whole
  cases body with
  | none => exact absurd (List.append_eq_nil_iff.mp whole).1 (frame_ne_nil b)
  | some b' =>
    have same : frame b ++ (i'.unread ++ coming) = frame b' ++ [] := by
      rw [List.append_nil]
      exact whole
    obtain ⟨rfl, rest⟩ := frame_append_inj small (holds.small b' rfl) same
    obtain ⟨nothing, arrived⟩ := List.append_eq_nil_iff.mp rest
    refine ⟨rfl, arrived, fits, ?_, fun _ absent => nomatch absent⟩
    rw [nothing]
    rfl

/-- No length that is too big comes. -/
private theorem read_ne_oversized (holds : Holds i coming body) : i.reader.read ≠ .oversized := by
  intro big
  rcases i.reader.read_cases holds.fits with ⟨_, _, _, _, read⟩ | ⟨_, read⟩ | ⟨length, buffer, split, beyond, bound, _⟩
  · rw [read] at big
    unfold Reader.readBody at big
    split at big
    · cases big
    · cases big
  · rw [read] at big
    cases big
  · have whole := holds.bytes
    rw [unread, split, List.append_assoc] at whole
    cases body with
    | none => exact absurd (List.append_eq_nil_iff.mp whole).1 (by simp [lengthBytes])
    | some b =>
      have short := holds.small b rfl
      have same : lengthBytes length ++ (buffer ++ coming) = lengthBytes b.length ++ b := whole
      obtain ⟨lengths, _⟩ := List.append_inj same rfl
      have equal := lengthBytes_inj bound (lt_of_fits short) lengths
      omega

/-- As long as the stream goes on, the frame comes out or is waited for. -/
theorem next_cases (holds : Holds i coming body) (goes : i.Open) :
    (∃ b i', body = some b ∧ coming = [] ∧ i.next = (.frame b, i') ∧ i'.Open ∧ Holds i' [] none) ∨
      ((body = none ∨ coming ≠ []) ∧ ∃ i', i.next = (.pending, i') ∧ i'.Open ∧ Holds i' coming body) := by
  obtain ⟨closed, failed⟩ := goes
  cases read : i.reader.read with
  | oversized => exact absurd read holds.read_ne_oversized
  | frame b rest =>
    have found : i.next = (.frame b, { i with reader := rest }) := by simp [next, failed, read]
    obtain ⟨here, arrived, holds'⟩ := holds.of_frame found
    exact .inl ⟨b, _, here, arrived, found, ⟨closed, failed⟩, holds'⟩
  | starved rest =>
    have found : i.next = (.pending, { i with reader := rest }) := by simp [next, failed, read, closed]
    obtain ⟨bytes, fits⟩ := next_pending holds.fits found
    refine .inr ⟨?_, _, found, ⟨closed, failed⟩, fits, by rw [bytes]; exact holds.bytes, holds.small⟩
    cases body with
    | none => exact .inl rfl
    | some b =>
      right
      intro arrived
      have whole := holds.bytes
      rw [arrived, List.append_nil] at whole
      have there : i.reader.unread = frame b ++ [] := by
        rw [List.append_nil]
        exact whole
      rw [i.reader.read_whole holds.fits (holds.small b rfl) there] at read
      cases read

/-- Nothing comes out of a stream that holds no frame. -/
theorem next_none (holds : Holds i coming none) (goes : i.Open) : ∃ i', i.next = (.pending, i') := by
  rcases holds.next_cases goes with ⟨_, _, impossible, _⟩ | ⟨_, i', found, _⟩
  · cases impossible
  · exact ⟨i', found⟩

end Holds

end Inlet
end Lockstep.Frame
