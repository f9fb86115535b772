import Lockstep.Proofs.Json.Written
import Lockstep.Proofs.Message.Layout
import Lockstep.Frame
import Lockstep.Message.Read

/-!
# Messages are read as they were written

Whatever message is written, the bytes of it are read as this message, as long
as its numbers have no more than 64 bits. Responses fit into a frame when their
texts are not too long, and so do requests.
-/
namespace Lockstep
open Json

namespace PartitionKey

def members (k : PartitionKey) : List (String × Json) :=
  [("start", .quoted (escaped k.first)), ("end", .quoted (escaped k.last))]

private theorem laid_members (k : PartitionKey) : k.Laid (ofMembers k.members) :=
  .object (spelled_escaped _) (spelled_escaped _) (arranged_written _ _)

private theorem entry (k : PartitionKey) (name : String) : Entry (name, k.written) (name, ofMembers k.members) :=
  .object name (.cons (.text "start" k.first) (.cons (.text "end" k.last) .nil))

end PartitionKey

namespace Request

/-- What is written is one of the layouts. -/
private theorem tagged_encode (r : Request) : ∃ own, r.Fields own ∧ Tagged r.name r.known own r.encode := by
  cases r with
  | hello secret => exact ⟨_, .hello (spelled_escaped _), tagged_written (.cons (.text "secret" secret) .nil)⟩
  | getBarrier key => exact ⟨_, .getBarrier key.laid_members, tagged_written (.cons (key.entry "key") .nil)⟩
  | wait h timeout =>
    cases timeout with
    | none => exact ⟨_, .wait, tagged_written (.cons (.natural "handle" h) .nil)⟩
    | some ms =>
      exact ⟨_, .waitLimited, tagged_written (.cons (.natural "handle" h) (.cons (.natural "timeout_ms" ms) .nil))⟩
  | status h => exact ⟨_, .status, tagged_written (.cons (.natural "handle" h) .nil)⟩
  | abort h => exact ⟨_, .abort, tagged_written (.cons (.natural "handle" h) .nil)⟩
  | reset h => exact ⟨_, .reset, tagged_written (.cons (.natural "handle" h) .nil)⟩

theorem decode?_encode {r : Request} (small : r.Small) : decode? r.encode = some r := by
  obtain ⟨own, fields, tagged⟩ := r.tagged_encode
  exact decode?_of_tagged small fields tagged

end Request

namespace Response

/-- What is written is one of the layouts. -/
private theorem tagged_encode (r : Response) : ∃ own, r.Fields own ∧ Tagged r.name r.known own r.encode := by
  cases r with
  | welcome parties => exact ⟨_, .welcome, tagged_written (.cons (.natural "parties" parties) .nil)⟩
  | handle h parties =>
    exact ⟨_, .handle, tagged_written (.cons (.natural "handle" h) (.cons (.natural "parties" parties) .nil))⟩
  | arrived index => exact ⟨_, .arrived, tagged_written (.cons (.natural "index" index) .nil)⟩
  | status s =>
    exact ⟨_, .status, tagged_written (.cons (.natural "parties" s.parties) (.cons (.natural "n_waiting" s.waiting)
      (.cons (.truth "broken" s.broken) (.cons (.natural "generation" s.generation) .nil))))⟩
  | ok => exact ⟨_, .ok, tagged_written .nil⟩
  | error code message =>
    exact ⟨_, .error (spelled_escaped _) (spelled_escaped _),
      tagged_written (.cons (.text "code" code.name) (.cons (.text "message" message) .nil))⟩

theorem decode?_encode {r : Response} (small : r.Small) : decode? r.encode = some r := by
  obtain ⟨own, fields, tagged⟩ := r.tagged_encode
  exact decode?_of_tagged small fields tagged

end Response

/-- At most so many bytes are written for a field, with its colon and what separates it from the next one. -/
def Json.Print.room (field : String × String) : Nat :=
  6 * field.1.length + (Text.bytes field.2).length + 4

private theorem Json.length_escapedChar (c : Char) : (escapedChar c).length ≤ 6 := by
  refine forall_char (p := fun c => (escapedChar c).length ≤ 6) ?_ ?_ c
  · decide +kernel
  · intro c large
    rw [escapedChar_of_large large, String.length_utf8EncodeChar]
    have := c.utf8Size_le_four
    omega

theorem Json.length_bytes_text (s : String) : (Text.bytes (Print.text s)).length ≤ 6 * s.length + 2 := by
  have inside := length_flatMap_le length_escapedChar s.toList
  rw [String.length_toList] at inside
  rw [bytes_text, List.length_cons, List.length_append, List.length_singleton, escaped]
  omega

/-- At least a byte is written for each character. -/
theorem Json.length_le_bytes_text (s : String) : s.length ≤ (Text.bytes (Print.text s)).length := by
  have some_each : ∀ c, 0 < (escapedChar c).length := by
    refine fun c => forall_char (p := fun c => 0 < (escapedChar c).length) ?_ ?_ c
    · decide +kernel
    · intro c large
      rw [escapedChar_of_large large, String.length_utf8EncodeChar]
      exact c.utf8Size_pos
  have inside := length_le_flatMap some_each s.toList
  rw [String.length_toList] at inside
  rw [bytes_text, List.length_cons, List.length_append, escaped]
  omega

private theorem Json.length_bytes_object {fields : List (String × String)}
    (short : ∀ field ∈ fields, Print.room field ≤ 200000) :
    (Text.bytes (Print.object fields)).length ≤ 200000 * fields.length + 2 := by
  have colon : Text.bytes ":" = [58] := by decide
  have comma : Text.bytes "," = [44] := by decide
  have opens : Text.bytes "\x7b" = [123] := by decide
  have closes : Text.bytes "\x7d" = [125] := by decide
  have members : (Text.bytes (Print.members fields)).length ≤ 200000 * fields.length := by
    induction fields with
    | nil => exact Nat.le_refl 0
    | cons field fields ih =>
      obtain ⟨name, value⟩ := field
      have text := length_bytes_text name
      have here := short (name, value) (List.mem_cons_self ..)
      have rest := ih fun field member => short field (List.mem_cons_of_mem _ member)
      simp only [Print.room] at here
      cases fields with
      | nil =>
        simp only [Print.members, Text.bytes_append, colon, List.length_append, List.length_singleton]
        omega
      | cons field' fields =>
        rw [List.length_cons]
        simp only [Print.members, Text.bytes_append, colon, comma, List.length_append, List.length_singleton] at rest ⊢
        omega
  simp only [Print.object, Text.bytes_append, opens, closes, List.length_append, List.length_singleton]
  omega

/-- A message with few and short fields fits into a frame. -/
private theorem Json.object_fits (fields : List (String × String)) (few : fields.length ≤ 5)
    (short : ∀ field ∈ fields, Print.room field ≤ 200000) :
    (Text.bytes (Print.object fields)).length ≤ Frame.maxBody := by
  have whole := length_bytes_object short
  unfold Frame.maxBody
  omega

private theorem Json.room_natural (name : String) (brief : name.length ≤ 100) {n : Nat} (small : n ≤ maxNatural) :
    Print.room (name, Print.natural n) ≤ 200000 := by
  have digits := length_digits small
  simp only [Print.room]
  rw [show Text.bytes (Print.natural n) = Json.digits n from rfl]
  omega

private theorem Json.room_text (name : String) (brief : name.length ≤ 100) {s : String} (short : s.length ≤ 30000) :
    Print.room (name, Print.text s) ≤ 200000 := by
  have text := length_bytes_text s
  simp only [Print.room]
  omega

private theorem Json.room_truth (name : String) (brief : name.length ≤ 100) (b : Bool) :
    Print.room (name, Print.truth b) ≤ 200000 := by
  have word : (Text.bytes (Print.truth b)).length ≤ 5 := by cases b <;> decide
  simp only [Print.room]
  omega

/-- Requests fit into a frame, if keys and secrets are not too long. -/
theorem Request.encode_fits {r : Request} (small : r.Small) (key : ∀ key, r ≠ .getBarrier key)
    (secret : ∀ secret, r = .hello secret → secret.length ≤ 30000) : r.encode.length ≤ Frame.maxBody := by
  have type : ∀ name : String, name.length ≤ 100 → Print.room ("type", Print.text name) ≤ 200000 :=
    fun name brief => room_text "type" (by decide) (by omega)
  have handled : ∀ (name : String) {h : Handle}, name.length ≤ 100 → h ≤ maxNatural →
      (Text.bytes (Print.object [("type", Print.text name), ("handle", Print.natural h)])).length ≤ Frame.maxBody := by
    intro name h brief handle
    refine object_fits _ (by simp) fun field member => ?_
    rcases List.mem_pair.mp member with rfl | rfl
    · exact type name brief
    · exact room_natural "handle" (by decide) handle
  cases r with
  | hello s =>
    refine object_fits [_, _] (by simp) fun field member => ?_
    rcases List.mem_pair.mp member with rfl | rfl
    · exact type "hello" (by decide)
    · exact room_text "secret" (by decide) (secret s rfl)
  | getBarrier k => exact absurd rfl (key k)
  | wait h timeout =>
    obtain ⟨handle, limit⟩ := small
    cases timeout with
    | none => exact handled "wait" (by decide) handle
    | some ms =>
      refine object_fits [_, _, _] (by simp) fun field member => ?_
      simp only [List.mem_cons, List.not_mem_nil, or_false] at member
      rcases member with rfl | rfl | rfl
      · exact type "wait" (by decide)
      · exact room_natural "handle" (by decide) handle
      · exact room_natural "timeout_ms" (by decide) (limit ms rfl)
  | status h => exact handled "status" (by decide) small
  | abort h => exact handled "abort" (by decide) small
  | reset h => exact handled "reset" (by decide) small

/-- A request for a key that is too long does not fit into a frame. -/
theorem Request.encode_long {key : PartitionKey} (long : Frame.maxBody < key.first.length) :
    ¬ (Request.getBarrier key).encode.length ≤ Frame.maxBody := by
  have text := Json.length_le_bytes_text key.first
  simp only [encode, written, fields, PartitionKey.written, Json.Print.object, Json.Print.members, Text.bytes_append,
    List.length_append]
  omega

/-- Responses fit into a frame, if messages are not too long. -/
theorem Response.encode_fits {r : Response} (small : r.Small)
    (short : ∀ code message, r = .error code message → message.length ≤ 30000) : r.encode.length ≤ Frame.maxBody := by
  have type : Print.room ("type", Print.text r.name) ≤ 200000 := by
    have brief : r.name.length ≤ 100 := by cases r <;> (simp only [name]; decide)
    exact room_text "type" (by decide) (by omega)
  refine object_fits (("type", Print.text r.name) :: r.fields) ?_ fun field member => ?_
  · cases r <;> simp [fields]
  · rcases List.mem_cons.mp member with rfl | own
    · exact type
    · cases r with
      | welcome parties =>
        obtain rfl := List.mem_singleton.mp own
        exact room_natural "parties" (by decide) small
      | handle h parties =>
        rcases List.mem_pair.mp own with rfl | rfl
        · exact room_natural "handle" (by decide) small.1
        · exact room_natural "parties" (by decide) small.2
      | arrived index =>
        obtain rfl := List.mem_singleton.mp own
        exact room_natural "index" (by decide) small
      | status s =>
        simp only [fields, List.mem_cons, List.not_mem_nil, or_false] at own
        rcases own with rfl | rfl | rfl | rfl
        · exact room_natural "parties" (by decide) small.1
        · exact room_natural "n_waiting" (by decide) small.2.1
        · exact room_truth "broken" (by decide) s.broken
        · exact room_natural "generation" (by decide) small.2.2
      | ok => cases own
      | error code message =>
        rcases List.mem_pair.mp own with rfl | rfl
        · exact room_text "code" (by decide) (by cases code <;> (simp only [Code.name]; decide))
        · exact room_text "message" (by decide) (short code message rfl)

private theorem length_message {g : Nat} (counted : g ≤ maxNatural) (before after : String) :
    (before ++ toString g ++ after).length ≤ before.length + 20 + after.length := by
  have digits : (toString g).length ≤ 20 := by
    show (Nat.repr g).length ≤ 20
    rw [Nat.repr, String.length_ofList]
    refine (Nat.length_toDigits_le_iff (by decide) (by decide)).mpr (Nat.lt_of_le_of_lt counted ?_)
    decide
  rw [String.length_append, String.length_append]
  omega

/-- An error whose detail tells a number of 64 bits fits into a frame. -/
theorem Response.ofFault_fits {f : Fault} {n : Nat} {before after : String} (counted : n ≤ maxNatural)
    (detail : f.detail = some (before ++ toString n ++ after))
    (short : f.description.length + before.length + after.length ≤ 20000) :
    (Response.ofFault f).encode.length ≤ Frame.maxBody := by
  refine encode_fits trivial ?_
  rintro code message ⟨⟩
  have length := length_message counted before after
  have second : (": " : String).length = 2 := by decide
  rw [messageOf, detail, String.length_append, String.length_append]
  omega

/-- What a wait is told that finds its generation broken fits into a frame. -/
theorem Response.broken_fits {why : Barrier.Failure} {g : Nat} (counted : g ≤ maxNatural)
    (which : why = .brokenBefore g ∨ why = .brokenDuring g) :
    (Response.ofFault why.fault).encode.length ≤ Frame.maxBody := by
  rcases which with rfl | rfl
  · refine ofFault_fits counted rfl ?_
    show "Barrier is broken".length + "generation ".length + " was broken before this arrival".length ≤ 20000
    decide
  · refine ofFault_fits counted rfl ?_
    show "Barrier is broken".length + "generation ".length + " was broken while waiting".length ≤ 20000
    decide

/-- Every message is read as the message that it was written as, so no two messages are written the same. -/
theorem messages_read_back :
    (∀ r : Request, r.Small → Request.decode? r.encode = some r) ∧
      (∀ r : Response, r.Small → Response.decode? r.encode = some r) ∧
      (∀ r r' : Request, r.Small → r'.Small → r ≠ r' → r.encode ≠ r'.encode) ∧
      ∀ r r' : Response, r.Small → r'.Small → r ≠ r' → r.encode ≠ r'.encode := by
  refine ⟨fun r => Request.decode?_encode, fun r => Response.decode?_encode, ?_, ?_⟩
  · intro r r' small small' different same
    have read := Request.decode?_encode small
    rw [same, Request.decode?_encode small'] at read
    exact different (Option.some.inj read).symm
  · intro r r' small small' different same
    have read := Response.decode?_encode small
    rw [same, Response.decode?_encode small'] at read
    exact different (Option.some.inj read).symm

/-- Texts with every kind of character that is written in a way of its own, the largest number, and a timeout that is
    absent, zero or as long as can be. -/
theorem messages_read_back_awkward :
    let odd := "\"\\/\x08\x0c\n\r\t\x00\x1f\x7fé\u2028😀"
    let key := Request.getBarrier ⟨odd, ""⟩
    let wait := Request.wait Json.maxNatural
    let error := Response.error .internal odd
    let status := Response.status ⟨Json.maxNatural, 0, true, Json.maxNatural⟩
    (key.Small ∧ Request.decode? key.encode = some key) ∧
      (∀ timeout ∈ [none, some 0, some Json.maxNatural],
        (wait timeout).Small ∧ Request.decode? (wait timeout).encode = some (wait timeout)) ∧
      (wait none).encode ≠ (wait (some 0)).encode ∧
      (error.Small ∧ status.Small) ∧ Response.decode? error.encode = some error ∧
      Response.decode? status.encode = some status ∧ error.encode ≠ status.encode := by
  intro odd key wait error status
  obtain ⟨requests, responses, apart, apart'⟩ := messages_read_back
  have limits : ∀ timeout ∈ [none, some 0, some Json.maxNatural], (wait timeout).Small := by
    simp [wait, Request.Small]
  have largest : status.Small := by simp [status, Response.Small]
  exact ⟨⟨trivial, requests key trivial⟩,
    fun timeout member => ⟨limits timeout member, requests _ (limits timeout member)⟩,
    apart _ _ (limits _ (by simp)) (limits _ (by simp)) (by simp [wait]), ⟨trivial, largest⟩,
    responses error trivial, responses status largest, apart' _ _ trivial largest (by simp [error, status])⟩

end Lockstep
