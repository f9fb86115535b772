import Lockstep.Message.Complaint
import Lockstep.Proofs.Message.RoundTrip
import Lockstep.Session

namespace Lockstep
open Json

/-- An error is at most six times as long as its message, but for what is always the same. -/
private theorem Response.length_encode_error (code : Code) (message : String) :
    (Response.error code message).encode.length ≤ 6 * message.length + 200 := by
  have type : (Text.bytes (Print.text "type")).length = 6 := by decide
  have error : (Text.bytes (Print.text "error")).length = 7 := by decide
  have field : (Text.bytes (Print.text "code")).length = 6 := by decide
  have field' : (Text.bytes (Print.text "message")).length = 9 := by decide
  have named : (Text.bytes (Print.text code.name)).length ≤ 30 := by cases code <;> decide
  have text := length_bytes_text message
  have opens : Text.bytes "\x7b" = [123] := by decide
  have closes : Text.bytes "\x7d" = [125] := by decide
  have colon : Text.bytes ":" = [58] := by decide
  have comma : Text.bytes "," = [44] := by decide
  simp only [Response.encode, Response.written, Response.name, Response.fields, Print.object, Print.members,
    Text.bytes_append, opens, closes, colon, comma, List.length_append, List.length_singleton]
  omega

/-- An error is longer than its message. -/
private theorem Response.length_le_encode (code : Code) (message : String) :
    message.length ≤ (Response.error code message).encode.length := by
  have text := length_le_bytes_text message
  simp only [Response.encode, Response.written, Response.fields, Print.object, Print.members, Text.bytes_append,
    List.length_append]
  omega

/-- What tells of a frame that holds no request. -/
def Response.malformed (complaint : String) : Response :=
  .ofFault (Session.malformedFrame complaint)

private theorem Response.length_messageOf_malformed (complaint : String) :
    (Response.messageOf (Session.malformedFrame complaint)).length = 25 + complaint.length := by
  have fixed : "Malformed request frame".length = 23 ∧ ": ".length = 2 := by decide
  simp only [Response.messageOf, Session.malformedFrame, String.length_append]
  omega

/-- What is short can be told in a frame. -/
theorem Response.malformed_fits {complaint : String} (short : complaint.length ≤ 0x20000) :
    (Response.malformed complaint).encode.length ≤ Frame.maxBody := by
  have written := length_encode_error (.ofKind .protocolViolation) (messageOf (Session.malformedFrame complaint))
  have message := length_messageOf_malformed complaint
  refine Nat.le_trans written ?_
  unfold Frame.maxBody
  omega

/-- What quotes more than a frame holds cannot. -/
theorem Response.malformed_long {complaint before quoted after : String}
    (quotes : complaint = before ++ quoted ++ after) (long : Frame.maxBody < 25 + quoted.length) :
    Frame.maxBody < (Response.malformed complaint).encode.length := by
  have written := length_le_encode (.ofKind .protocolViolation) (messageOf (Session.malformedFrame complaint))
  have message := length_messageOf_malformed complaint
  have whole : complaint.length = before.length + quoted.length + after.length := by simp [quotes]
  refine Nat.lt_of_lt_of_le ?_ written
  omega

namespace Search

variable {builder : Builder} {typed : Bool} {depth : Nat}

/-- Inside quotes nothing is found, up to the closing quote. -/
private theorem foldl_quoted {bs : Bytes} {e e' : Escape} (goes : bs.foldlM Escape.next? e = some e') (read : Bytes)
    (place : Place) : bs.foldl next (.reading ⟨[], .quoted e read⟩ builder typed depth place) =
      .reading ⟨[], .quoted e' (bs.reverse ++ read)⟩ builder typed depth (bs.foldl Place.next place) := by
  induction bs generalizing e read place with
  | nil =>
    cases goes
    rfl
  | cons b bs ih =>
    rw [List.foldlM_cons] at goes
    cases step : e.next? b with
    | none => simp [step] at goes
    | some e'' =>
      rw [step] at goes
      rw [List.foldl_cons, next, scan_escape [] read step]
      simpa [take] using ih goes (b :: read) (place.next b)

/-- A text that was written comes to one token for the search. -/
private theorem foldl_text (builder : Builder) (typed : Bool) (depth : Nat) (s : String) (place : Place)
    (rest : Bytes) : (Text.bytes (Print.text s) ++ rest).foldl next (.reading ⟨[], .blank⟩ builder typed depth place) =
      rest.foldl next (take ⟨[], .blank⟩ ((Text.bytes (Print.text s)).foldl Place.next place) builder typed depth
        [.quoted (escaped s)]) := by
  have opens : next (.reading ⟨[], .blank⟩ builder typed depth place) 34 =
      .reading ⟨[], .quoted .plain []⟩ builder typed depth (place.next 34) := rfl
  rw [bytes_text, List.cons_append, List.append_assoc, List.foldl_cons, opens, List.foldl_append,
    foldl_quoted (escape_escaped s), List.append_nil, List.singleton_append, List.foldl_cons]
  simp [next, Scanner.next?, Scanner.push]

private theorem foldl_over (complaint : Option String) (rest : Bytes) :
    rest.foldl next (.over complaint) = .over complaint := by
  induction rest with
  | nil => rfl
  | cons b rest ih => exact ih

end Search

/-- A frame that has a type and nothing else. -/
def typeAlone (name : String) : Bytes :=
  Text.bytes (Print.object [("type", Print.text name)])

private theorem typeAlone_eq (name : String) :
    typeAlone name = 123 :: (Text.bytes (Print.text "type") ++ 58 :: (Text.bytes (Print.text name) ++ [125])) := by
  have opens : Text.bytes "\x7b" = [123] := by decide
  have colon : Text.bytes ":" = [58] := by decide
  have closes : Text.bytes "\x7d" = [125] := by decide
  simp [typeAlone, Print.object, Print.members, opens, colon, closes]

/-- The name of an unknown type is quoted in full. -/
theorem Complaint.unknownType_eq (name : String) (place : Place) : unknownType name place =
    ("unknown variant `" ++ name) ++
      ("`, expected one of `hello`, `get_barrier`, `wait`, `status`, `abort`, `reset`" ++ place.text) := by
  unfold unknownType
  rw [← String.append_assoc]

/-- A frame of an unknown type is told its name in full. -/
theorem Request.complaint_typeAlone {name : String} (unknown : name ∉ requestNames) :
    ∃ place, complaint (typeAlone name) = Complaint.unknownType name place := by
  have sound : ∀ s, Token.sound (.quoted (escaped s)) = true := fun s => by simp [Token.sound, text?_escaped]
  have opened : Search.next (.reading {} {} false 0 {}) 123 =
      .reading ⟨[], .blank⟩ ⟨[.object [] []], .firstMember⟩ false 1 (Place.next {} 123) := rfl
  have key : ∀ place, Search.take ⟨[], .blank⟩ place ⟨[.object [] []], .firstMember⟩ false 1
      [.quoted (escaped "type")] =
      .reading ⟨[], .blank⟩ ⟨[.object [] (escaped "type")], .colon⟩ false 1 place := by
    intro place
    simp [Search.take, sound, Search.depthAfter, maxDepth, Search.judge, Search.atRequest, Search.atType, text?_escaped,
      Builder.next?, Builder.finish?]
  have colon : ∀ place, Search.next (.reading ⟨[], .blank⟩ ⟨[.object [] (escaped "type")], .colon⟩ false 1 place) 58 =
      .reading ⟨[], .blank⟩ ⟨[.object [] (escaped "type")], .value⟩ false 1 (place.next 58) := fun _ => rfl
  have judged : ∀ place, Search.take ⟨[], .blank⟩ place ⟨[.object [] (escaped "type")], .value⟩ false 1
      [.quoted (escaped name)] = .over (some (Complaint.unknownType name place)) := by
    intro place
    simp [Search.take, sound, Search.depthAfter, maxDepth, Search.judge, Search.atRequest, Search.atType, text?_escaped,
      unknown]
  have walked : (typeAlone name).foldl Search.next (.reading {} {} false 0 {}) =
      .over (some (Complaint.unknownType name ((Text.bytes (Print.text name)).foldl Place.next
        (Place.next ((Text.bytes (Print.text "type")).foldl Place.next (Place.next {} 123)) 58)))) := by
    rw [typeAlone_eq, List.foldl_cons, opened, Search.foldl_text, key, List.foldl_cons, colon, Search.foldl_text, judged,
      Search.foldl_over]
  exact ⟨_, by rw [complaint, walked]; rfl⟩

/-- No request has such a type. -/
theorem Request.decode?_typeAlone {name : String} (unknown : name ∉ requestNames) :
    decode? (typeAlone name) = none := by
  have alone : Tagged name [] [] (typeAlone name) := tagged_written .nil
  obtain ⟨members, sound, tagged, -⟩ := sound?_of_tagged alone List.not_mem_nil nofun
  simp only [requestNames, List.mem_cons, List.not_mem_nil, or_false, not_or] at unknown
  obtain ⟨hello, getBarrier, wait, status, abort, reset⟩ := unknown
  rw [Request.decode?, sound]
  simp [Request.ofJson?, tagged, Request.ofFields?, hello, getBarrier, wait, status, abort, reset]

theorem length_typeAlone (name : String) : (typeAlone name).length = (escaped name).length + 11 := by
  have type : (Text.bytes (Print.text "type")).length = 6 := by decide
  rw [typeAlone_eq]
  simp [type, bytes_text name]
  omega

end Lockstep
