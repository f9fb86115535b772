import Lockstep.Proofs.Frame.Stream

namespace Lockstep.Frame

theorem Reader.push_push (r : Reader) (a b : Bytes) : (r.push a).push b = r.push (a ++ b) := by
  simp [Reader.push]

namespace Reader

variable {r rest : Reader} {body : Bytes}

private theorem readBody_push_frame {length : Nat} {buffer : Bytes} (found : readBody length buffer = .frame body rest)
    (bytes : Bytes) : readBody length (buffer ++ bytes) = .frame body (rest.push bytes) := by
  unfold readBody at found
  split at found
  · rename_i whole
    cases found
    have more : length ≤ (buffer ++ bytes).length := by
      rw [List.length_append]
      omega
    rw [readBody, if_pos more, List.take_append_of_le_length whole, List.drop_append_of_le_length whole]
    rfl
  · cases found

private theorem read_push_frame (found : r.read = .frame body rest) (bytes : Bytes) :
    (r.push bytes).read = .frame body (rest.push bytes) := by
  obtain ⟨expected, buffer⟩ := r
  cases expected with
  | some length => exact readBody_push_frame found bytes
  | none =>
    match buffer with
    | a :: b :: c :: d :: buffer =>
      simp only [read] at found
      split at found
      · cases found
      · rename_i fits
        simp only [push, read, List.cons_append, if_neg fits]
        exact readBody_push_frame found bytes
    | [] | [_] | [_, _] | [_, _, _] => cases found

/-- A length that is too big stays so. -/
theorem read_push_oversized (found : r.read = .oversized) (bytes : Bytes) : (r.push bytes).read = .oversized := by
  obtain ⟨expected, buffer⟩ := r
  cases expected with
  | none =>
    match buffer with
    | a :: b :: c :: d :: buffer =>
      simp only [read] at found
      split at found
      · rename_i big
        simp only [push, read, List.cons_append, if_pos big]
      · simp only [readBody] at found
        split at found
        · cases found
        · cases found
    | [] | [_] | [_, _] | [_, _, _] => cases found
  | some length =>
    simp only [read, readBody] at found
    split at found
    · cases found
    · cases found

/-- To take the length off while waiting makes no difference to what is read later. -/
private theorem read_push_starved (found : r.read = .starved rest) (bytes : Bytes) :
    (rest.push bytes).read = (r.push bytes).read := by
  obtain ⟨expected, buffer⟩ := r
  cases expected with
  | some length =>
    obtain ⟨rfl, _⟩ := readBody_starved found
    rfl
  | none =>
    match buffer with
    | a :: b :: c :: d :: buffer =>
      simp only [read] at found
      split at found
      · cases found
      · rename_i fits
        obtain ⟨rfl, _⟩ := readBody_starved found
        simp only [push, read, List.cons_append, if_neg fits]
    | [] | [_] | [_, _] | [_, _, _] =>
      cases found
      rfl

/-- At most so many frames are in the bytes that are there: one takes its length off, or had it off already. -/
def bound (r : Reader) : Nat :=
  r.buffer.length + r.expected.toList.length

private theorem bound_frame (found : r.read = .frame body rest) : rest.bound < r.bound := by
  obtain ⟨expected, buffer⟩ := r
  cases expected with
  | some length =>
    obtain ⟨_, known, split⟩ := readBody_frame found
    rw [bound, bound, known, show buffer = body ++ rest.buffer from split]
    simp only [List.length_append, Option.toList_none, Option.toList_some, List.length_nil, List.length_singleton]
    omega
  | none =>
    match buffer with
    | a :: b :: c :: d :: buffer =>
      simp only [read] at found
      split at found
      · cases found
      · obtain ⟨_, known, split⟩ := readBody_frame found
        rw [bound, bound, known, split]
        simp only [List.length_cons, List.length_append, Option.toList_none, List.length_nil]
        omega
    | [] | [_] | [_, _] | [_, _, _] => cases found

end Reader

namespace Inlet

variable {i j last last' : Inlet} {items items' : List Item} {body : Bytes} {failure : Failure}

/-- The items that there can be, by what the reader finds. -/
theorem next_split (i : Inlet) :
    (∃ body rest, i.failed = false ∧ i.reader.read = .frame body rest ∧
        i.next = (.frame body, { i with reader := rest })) ∨
      (∃ rest, i.failed = false ∧ i.closed = false ∧ i.reader.read = .starved rest ∧
        i.next = (.pending, { i with reader := rest })) ∨
      (∃ failure j, i.failed = false ∧ (i.closed = false → i.reader.read = .oversized ∧ failure = .oversized) ∧
        j.failed = true ∧ j.closed = i.closed ∧ i.next = (.failed failure, j)) ∨
      ∃ j, (i.closed = false → i.failed = true) ∧ j.closed = i.closed ∧ i.next = (.finished, j) := by
  obtain ⟨reader, closed, failed⟩ := i
  cases failed with
  | true => exact .inr (.inr (.inr ⟨_, fun _ => rfl, rfl, rfl⟩))
  | false =>
    cases read : reader.read with
    | frame body rest => exact .inl ⟨body, rest, rfl, rfl, by simp [next, read]⟩
    | oversized =>
      refine .inr (.inr (.inl ⟨.oversized, ⟨reader, closed, true⟩, rfl, fun _ => ⟨rfl, rfl⟩, rfl, rfl, ?_⟩))
      simp [next, read]
    | starved rest =>
      cases closed with
      | false => exact .inr (.inl ⟨rest, rfl, rfl, rfl, by simp [next, read]⟩)
      | true =>
        cases empty : rest.buffer.isEmpty with
        | true =>
          refine .inr (.inr (.inr ⟨⟨rest, true, false⟩, fun goes => Bool.noConfusion goes, rfl, ?_⟩))
          simp [next, read, empty]
        | false =>
          refine .inr (.inr (.inl ⟨.cut, ⟨rest, true, true⟩, rfl, fun goes => Bool.noConfusion goes, rfl, rfl, ?_⟩))
          simp [next, read, empty]

theorem of_next_frame (found : i.next = (.frame body, j)) :
    ∃ rest, i.failed = false ∧ i.reader.read = .frame body rest ∧ j = { i with reader := rest } := by
  rcases i.next_split with ⟨_, rest, goes, read, next⟩ | ⟨_, _, _, _, next⟩ | ⟨_, _, _, _, _, _, next⟩ | ⟨_, _, _, next⟩
  case inl =>
    rw [next] at found
    cases found
    exact ⟨rest, goes, read, rfl⟩
  all_goals
    rw [next] at found
    cases found

theorem of_next_pending (found : i.next = (.pending, j)) :
    ∃ rest, i.failed = false ∧ i.reader.read = .starved rest ∧ j = { i with reader := rest } := by
  rcases i.next_split with ⟨_, _, _, _, next⟩ | ⟨rest, goes, _, read, next⟩ | ⟨_, _, _, _, _, _, next⟩ | ⟨_, _, _, next⟩
  case inr.inl =>
    rw [next] at found
    cases found
    exact ⟨rest, goes, read, rfl⟩
  all_goals
    rw [next] at found
    cases found

theorem of_next_failed (found : i.next = (.failed failure, j)) :
    i.failed = false ∧ (i.closed = false → i.reader.read = .oversized ∧ failure = .oversized) ∧ j.failed = true ∧
      j.closed = i.closed := by
  rcases i.next_split with ⟨_, _, _, _, next⟩ | ⟨_, _, _, _, next⟩ | ⟨_, _, goes, big, stuck, closed, next⟩ | ⟨_, _, _, next⟩
  case inr.inr.inl =>
    rw [next] at found
    cases found
    exact ⟨goes, big, stuck, closed⟩
  all_goals
    rw [next] at found
    cases found

theorem of_next_finished (found : i.next = (.finished, j)) :
    (i.closed = false → i.failed = true) ∧ j.closed = i.closed := by
  rcases i.next_split with ⟨_, _, _, _, next⟩ | ⟨_, _, _, _, next⟩ | ⟨_, _, _, _, _, _, next⟩ | ⟨_, stuck, closed, next⟩
  case inr.inr.inr =>
    rw [next] at found
    cases found
    exact ⟨stuck, closed⟩
  all_goals
    rw [next] at found
    cases found

theorem next_of_failed (stuck : i.failed = true) : i.next = (.finished, i) := by
  simp [next, stuck]

/-- A frame that is there as a whole comes out next. -/
theorem next_whole {more : Bytes} (goes : i.failed = false) (fits : i.reader.Fits) (small : body.length ≤ maxBody)
    (there : i.unread = frame body ++ more) : i.next = (.frame body, { i with reader := ⟨none, more⟩ }) := by
  simp [next, goes, i.reader.read_whole fits small there]

theorem next_push_frame (goes : i.failed = false) (fits : i.reader.Fits) (quiet : i.unread = [])
    (small : body.length ≤ maxBody) : (i.push (frame body)).next = (.frame body, { i with reader := {} }) := by
  have there : (i.push (frame body)).unread = frame body ++ [] := by
    have nothing : i.reader.unread = [] := quiet
    simp [unread, push, nothing]
  exact (i.push (frame body)).next_whole goes (fits.push _) small there

/-- These items come out of a stream one after the other, until it is over or waits for bytes. -/
inductive Yields : Inlet → List Item → Inlet → Prop
  | frame {i j last : Inlet} {body : Bytes} {items : List Item} : i.next = (.frame body, j) → Yields j items last →
      Yields i (.frame body :: items) last
  | failed {i j last : Inlet} {failure : Failure} {items : List Item} : i.next = (.failed failure, j) →
      Yields j items last → Yields i (.failed failure :: items) last
  | finished {i last : Inlet} : i.next = (.finished, last) → Yields i [.finished] last
  | pending {i last : Inlet} : i.next = (.pending, last) → Yields i [] last

private theorem Yields.unique (yields : Yields i items last) (yields' : Yields i items' last') :
    items = items' ∧ last = last' := by
  induction yields generalizing items' last' with
  | frame next _ ih =>
    cases yields' with
    | frame next' rest =>
      rw [next] at next'
      cases next'
      obtain ⟨rfl, rfl⟩ := ih rest
      exact ⟨rfl, rfl⟩
    | failed next' | finished next' | pending next' =>
      rw [next] at next'
      cases next'
  | failed next _ ih =>
    cases yields' with
    | failed next' rest =>
      rw [next] at next'
      cases next'
      obtain ⟨rfl, rfl⟩ := ih rest
      exact ⟨rfl, rfl⟩
    | frame next' | finished next' | pending next' =>
      rw [next] at next'
      cases next'
  | finished next =>
    cases yields' with
    | finished next' =>
      rw [next] at next'
      cases next'
      exact ⟨rfl, rfl⟩
    | frame next' | failed next' | pending next' =>
      rw [next] at next'
      cases next'
  | pending next =>
    cases yields' with
    | pending next' =>
      rw [next] at next'
      cases next'
      exact ⟨rfl, rfl⟩
    | frame next' | failed next' | finished next' =>
      rw [next] at next'
      cases next'

private theorem Yields.of_next (same : i.next = j.next) (yields : Yields j items last) : Yields i items last := by
  cases yields with
  | frame found rest => exact .frame (same.trans found) rest
  | failed found rest => exact .failed (same.trans found) rest
  | finished found => exact .finished (same.trans found)
  | pending found => exact .pending (same.trans found)

/-- After the failure of a reader the stream is over. -/
theorem yields_failed (found : i.next = (.failed failure, j)) (stuck : j.failed = true) :
    Yields i [.failed failure, .finished] j :=
  .failed found (.finished (next_of_failed stuck))

private theorem Yields.closed (yields : Yields i items j) : j.closed = i.closed := by
  induction yields with
  | frame found _ ih =>
    obtain ⟨_, _, _, rfl⟩ := of_next_frame found
    exact ih
  | failed found _ ih =>
    obtain ⟨_, _, _, same⟩ := of_next_failed found
    exact ih.trans same
  | finished found => exact (of_next_finished found).2
  | pending found =>
    obtain ⟨_, _, _, rfl⟩ := of_next_pending found
    rfl

/-- At most so many items come out before nothing is left. -/
def bound (i : Inlet) : Nat :=
  i.reader.bound + (!i.failed).toNat

private theorem items_yields {count : Nat} (enough : i.bound < count) :
    Yields i (i.items count).1 (i.items count).2 := by
  induction count generalizing i with
  | zero => omega
  | succ count ih =>
    rcases i.next_split with ⟨body, rest, _, read, found⟩ | ⟨rest, _, _, _, found⟩ | ⟨failure, j, goes, _, stuck, _, found⟩ |
      ⟨j, _, _, found⟩
    · have less : ({ i with reader := rest } : Inlet).bound < i.bound := by
        have := Reader.bound_frame read
        simp only [bound]
        omega
      have yields := Yields.frame found (ih (by omega))
      simpa only [items, found] using yields
    · simpa only [items, found] using Yields.pending found
    · have more : 0 < count := by
        have : 0 < i.bound := by simp [bound, goes]
        omega
      obtain ⟨count, rfl⟩ := Nat.exists_eq_add_one.mpr more
      simpa only [items, found, next_of_failed stuck] using yields_failed found stuck
    · simpa only [items, found] using Yields.finished found

private theorem drain_yields (i : Inlet) : Yields i i.drain.1 i.drain.2 := by
  refine items_yields ?_
  have : i.reader.expected.toList.length ≤ 1 := by cases i.reader.expected <;> simp
  have : (!i.failed).toNat ≤ 1 := Bool.toNat_le _
  simp only [bound, Reader.bound]
  omega

/-- The last bytes of a stream come, and then its end. -/
def ends (i : Inlet) (bytes : Bytes) : Inlet :=
  (i.push bytes).close

theorem push_ends (i : Inlet) (a b : Bytes) : (i.push a).ends b = i.ends (a ++ b) := by
  simp [ends, push, Reader.push_push]

private theorem getLast?_cons {item : Item} (more : item ≠ .finished) (items : List Item) :
    (item :: items).getLast? = some .finished ↔ items.getLast? = some .finished := by
  rw [List.getLast?_cons, Option.some.injEq]
  cases items.getLast? <;> simp [more]

theorem ends_frame (found : i.next = (.frame body, j)) (bytes : Bytes) :
    (i.ends bytes).next = (.frame body, j.ends bytes) := by
  obtain ⟨rest, goes, read, rfl⟩ := of_next_frame found
  simp [ends, push, close, next, goes, Reader.read_push_frame read]

/-- A length that is too big stops the stream, whatever follows it. -/
theorem ends_oversized (goes : i.failed = false) {bytes : Bytes} (big : (i.reader.push bytes).read = .oversized) :
    ∃ last, Yields (i.ends bytes) [.failed .oversized, .finished] last := by
  have here : (i.ends bytes).next = (.failed .oversized, { i.ends bytes with failed := true }) := by
    simp [ends, push, close, next, goes, big]
  exact ⟨_, yields_failed here rfl⟩

/-- A stream that has waited for bytes goes on as if they had been there from the start. -/
theorem ends_pending (found : i.next = (.pending, j)) (bytes : Bytes) (yields : Yields (j.ends bytes) items last) :
    ∃ last, Yields (i.ends bytes) items last := by
  obtain ⟨rest, goes, read, rfl⟩ := of_next_pending found
  have same := Reader.read_push_starved read bytes
  cases after : (i.reader.push bytes).read with
  | oversized =>
    -- the length that is too big is still in the buffer, so the two readers do not end up the same
    obtain ⟨_, there⟩ := ends_oversized (i := { i with reader := rest }) goes (same.trans after)
    obtain ⟨rfl, _⟩ := yields.unique there
    exact ends_oversized goes after
  | frame body more =>
    rw [after] at same
    exact ⟨last, yields.of_next (by simp [Inlet.ends, push, close, next, goes, same, after])⟩
  | starved more =>
    rw [after] at same
    exact ⟨last, yields.of_next (by simp [Inlet.ends, push, close, next, goes, same, after])⟩

/-- What comes out of a stream that goes on comes out of the whole stream first. If that is the end of it, because
    reading failed, nothing else comes. -/
private theorem Yields.ends (yields : Yields i items j) (goes : i.closed = false) (bytes : Bytes) :
    (items.getLast? = some .finished → ∃ last, Yields (i.ends bytes) items last) ∧
      (items.getLast? ≠ some .finished → ∀ items' last, Yields (j.ends bytes) items' last →
        ∃ last, Yields (i.ends bytes) (items ++ items') last) := by
  induction yields with
  | frame found _ ih =>
    have next := ends_frame found bytes
    obtain ⟨_, _, _, rfl⟩ := of_next_frame found
    obtain ⟨stops, more⟩ := ih goes
    rw [ne_eq, getLast?_cons (by simp)]
    constructor
    · intro ended
      obtain ⟨last, rest⟩ := stops ended
      exact ⟨last, .frame next rest⟩
    · intro ended items' last yields'
      obtain ⟨last, rest⟩ := more ended items' last yields'
      exact ⟨last, .frame next rest⟩
  | failed found rest =>
    obtain ⟨unfailed, big, stuck, _⟩ := of_next_failed found
    obtain ⟨read, rfl⟩ := big goes
    obtain ⟨same, _⟩ := rest.unique (.finished (next_of_failed stuck))
    rw [same]
    exact ⟨fun _ => ends_oversized unfailed (Reader.read_push_oversized read bytes),
      fun impossible => absurd rfl impossible⟩
  | @finished i last found =>
    have stuck : (i.ends bytes).failed = true := (of_next_finished found).1 goes
    exact ⟨fun _ => ⟨_, .finished (next_of_failed stuck)⟩, fun impossible => absurd rfl impossible⟩
  | pending found => exact ⟨nofun, fun _ items' last yields' => ends_pending found bytes yields'⟩

/-- However a stream was cut when it arrived, it yields what all of its bytes at once yield. -/
private theorem yields_transcript (goes : i.closed = false) (chunks : List Bytes) :
    ∃ last, Yields (i.ends chunks.flatten) (i.transcript (chunks.map .bytes ++ [.close])).flatten last := by
  induction chunks generalizing i with
  | nil =>
    have whole : i.ends [] = i.close := by simp [Inlet.ends, push, Reader.push]
    refine ⟨i.close.drain.2, ?_⟩
    have yields := i.close.drain_yields
    rw [List.flatten_nil, whole]
    simpa [transcript, receive] using yields
  | cons chunk chunks ih =>
    have here := (i.push chunk).drain_yields
    have goes' : (i.push chunk).closed = false := goes
    obtain ⟨stops, more⟩ := here.ends goes' chunks.flatten
    rw [push_ends] at stops more
    by_cases ended : (i.push chunk).drain.1.getLast? = some .finished
    · obtain ⟨last, yields⟩ := stops ended
      refine ⟨last, ?_⟩
      have silent : ∀ others : List Chunk, (others.map fun _ => ([] : List Item)).flatten = [] := by simp
      simpa only [List.map_cons, List.cons_append, transcript, receive, ended, if_true, List.flatten_cons, silent,
        List.append_nil] using yields
    · obtain ⟨last, rest⟩ := ih (here.closed.trans goes')
      obtain ⟨last, yields⟩ := more ended _ _ rest
      refine ⟨last, ?_⟩
      simpa [transcript, receive, ended] using yields

/-- What a whole stream yields is what comes out of it, however it was cut. -/
theorem Yields.transcript (yields : Yields (i.ends bytes) items last) (goes : i.closed = false) {chunks : List Bytes}
    (cut : chunks.flatten = bytes) : (i.transcript (chunks.map .bytes ++ [.close])).flatten = items := by
  subst cut
  obtain ⟨_, there⟩ := yields_transcript goes chunks
  exact (there.unique yields).1

end Inlet
end Lockstep.Frame
