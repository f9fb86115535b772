import Lockstep.Message.Read
import Lockstep.Proofs.Json.Tagged

/-!
# Messages in any layout

A message is read from every text that has its type and its fields, in whatever order
and spelling, with whatever blanks between its tokens and with any members besides
whose names are not known. A text in which the type or a known field stands twice is
no message (`layout_does_not_matter`).
-/
namespace Lockstep
open Json

/-- A key with its two texts in any order and with other members among them. -/
inductive PartitionKey.Laid (k : PartitionKey) : Json → Prop where
  | object {first last : Bytes} {members : List (Bytes × Json)} : Spelled k.first first → Spelled k.last last →
      Arranged [("start", .quoted first), ("end", .quoted last)] ["start", "end"] members → Laid k (.object members)

private theorem PartitionKey.Laid.composed {k : PartitionKey} {v : Json} (laid : k.Laid v) : Composed 101 v := by
  cases laid with
  | object first last arranged =>
    refine .object arranged.spelled (arranged.composed ?_ (Nat.le_refl _))
    intro n member
    rcases List.mem_pair.mp member with rfl | rfl
    · exact .text first
    · exact .text last

private theorem PartitionKey.Laid.read {k : PartitionKey} {v : Json} (laid : k.Laid v) : ofJson? v = some k := by
  cases laid with
  | object first last arranged =>
    simp [ofJson?, record?_arranged arranged, field?, valuesOf, required?, asText?, text?_of_spelled first,
      text?_of_spelled last]

/-- No key is read in which a text stands twice. -/
private theorem PartitionKey.ofJson?_of_repeating {keyed : List (String × Json)} {inner : List (Bytes × Json)}
    {name : String} (names : Named keyed inner) (which : name ∈ ["start", "end"])
    (twice : 2 ≤ (valuesOf name keyed).length) :
    ofJson? (.object inner) = none := by
  have none : record? ["start", "end"] (.object inner) = none := by
    by_contra read
    obtain ⟨values, read⟩ := Option.ne_none_iff_exists'.mp read
    have single := single_of_record? (named?_of_named names) read name which
    omega
  simp [ofJson?, none]

namespace Request

/-- The numbers of a request have at most 64 bits. -/
def Small : Request → Prop
  | .wait handle timeout => handle ≤ maxNatural ∧ ∀ ms, timeout = some ms → ms ≤ maxNatural
  | .status handle | .abort handle | .reset handle => handle ≤ maxNatural
  | .hello _ | .getBarrier _ => True

/-- The names that mean something in a request of this kind, besides its type. -/
def known : Request → List String
  | .hello _ => ["secret"]
  | .getBarrier _ => ["key"]
  | .wait _ _ => ["handle", "timeout_ms"]
  | .status _ | .abort _ | .reset _ => ["handle"]

/-- What a request has as its fields. A timeout that is absent may also be null. -/
inductive Fields : Request → List (String × Json) → Prop where
  | hello {secret : String} {body : Bytes} : Spelled secret body → Fields (.hello secret) [("secret", .quoted body)]
  | getBarrier {key : PartitionKey} {v : Json} : key.Laid v → Fields (.getBarrier key) [("key", v)]
  | wait {h : Handle} : Fields (.wait h none) [("handle", number h)]
  | waitNull {h : Handle} : Fields (.wait h none) [("handle", number h), ("timeout_ms", .null)]
  | waitLimited {h : Handle} {ms : Nat} : Fields (.wait h (some ms)) [("handle", number h), ("timeout_ms", number ms)]
  | status {h : Handle} : Fields (.status h) [("handle", number h)]
  | abort {h : Handle} : Fields (.abort h) [("handle", number h)]
  | reset {h : Handle} : Fields (.reset h) [("handle", number h)]

variable {r r' : Request} {own named : List (String × Json)} {text : Bytes} {v : Json}

private theorem type_not_known (r : Request) : "type" ∉ r.known := by
  cases r <;> simp [known]

private theorem Fields.proper (fields : r.Fields own) (small : r.Small) :
    ∀ n ∈ own, n.1 ≠ "type" ∧ Composed 101 n.2 := by
  cases fields with
  | hello spelled => simpa using Composed.text spelled
  | getBarrier laid => simpa using laid.composed
  | wait => simpa using composed_number small.1
  | waitNull => simpa using ⟨composed_number small.1, Composed.null⟩
  | waitLimited => simpa using ⟨composed_number small.1, composed_number (small.2 _ rfl)⟩
  | status | abort | reset => simpa using composed_number small

private theorem withHandle?_of_record {h : Handle} (small : h ≤ maxNatural) (make : Handle → Request)
    (record : record? ["handle"] v = ["handle"].mapM (field? [("handle", number h)])) :
    withHandle? make v = some (make h) := by
  have found : record? ["handle"] v = some [some (number h)] := record
  simp [withHandle?, found, required?, asNatural?_number small]

/-- A request is read from its type and its fields. -/
private theorem Fields.read (fields : r.Fields own) (small : r.Small)
    (record : record? r.known v = r.known.mapM (field? own)) : ofFields? r.name v = some r := by
  cases fields with
  | @hello secret body spelled =>
    have found : record? ["secret"] v = some [some (.quoted body)] := record
    simp [name, ofFields?, found, required?, asText?, text?_of_spelled spelled]
  | @getBarrier key value laid =>
    have found : record? ["key"] v = some [some value] := record
    simp [name, ofFields?, found, required?, laid.read]
  | @wait h =>
    have found : record? ["handle", "timeout_ms"] v = some [some (number h), none] := record
    simp [name, ofFields?, found, required?, optional?, asNatural?_number small.1]
  | @waitNull h =>
    have found : record? ["handle", "timeout_ms"] v = some [some (number h), some .null] := record
    simp [name, ofFields?, found, required?, optional?, asOptional?, asNatural?_number small.1]
  | @waitLimited h ms =>
    have found : record? ["handle", "timeout_ms"] v = some [some (number h), some (number ms)] := record
    simp [name, ofFields?, found, required?, optional?, asNatural?_number small.1, asOptional?_number (small.2 ms rfl)]
  | status => exact withHandle?_of_record small .status record
  | abort => exact withHandle?_of_record small .abort record
  | reset => exact withHandle?_of_record small .reset record

theorem decode?_of_tagged (small : r.Small) (fields : r.Fields own) (tagged : Tagged r.name r.known own text) :
    decode? text = some r :=
  read_tagged tagged r.type_not_known (fields.proper small) fun _ => fields.read small

/-- What is read as a request of some kind is a record with the fields of that kind. -/
private theorem record?_of_ofFields? (read : ofFields? r.name v = some r') :
    ∃ values, record? r.known v = some values := by
  cases r with
  | hello | getBarrier | wait | status | abort | reset =>
    obtain ⟨values, found, -⟩ := Option.bind_eq_some_iff.mp read
    exact ⟨values, found⟩

private theorem decode?_of_repeating (repeating : Repeating r.name r.known text) : decode? text = none :=
  unread_repeating ofFields? repeating r.type_not_known fun _ _ read => .inr (record?_of_ofFields? read)

/-- A layout of a request for a barrier in whose key a text stands twice. -/
def RepeatingKey (text : Bytes) : Prop :=
  ∃ named inner keyed, Typed "get_barrier" named text ∧ ("key", .object inner) ∈ named ∧ Named keyed inner ∧
    ∃ name ∈ ["start", "end"], 2 ≤ (valuesOf name keyed).length

private theorem decode?_of_repeatingKey (repeating : RepeatingKey text) : decode? text = none := by
  obtain ⟨named, inner, keyed, typed, listed, names, name, which, twice⟩ := repeating
  by_contra read
  obtain ⟨r, read⟩ := Option.ne_none_iff_exists'.mp read
  obtain ⟨members, found, -, read⟩ := fields_of_typed ofFields? typed read
  have others : "type" ∉ ["key"] := by decide
  obtain ⟨values, record, -⟩ := Option.bind_eq_some_iff.mp (show (record? ["key"] (untyped members)).bind _ = _ from read)
  have once := single_of_untyped found others record "key" (List.mem_singleton_self _)
  have key : record? ["key"] (untyped members) = some [some (.object inner)] := by
    rw [record?_untyped found others, List.mapM_cons, field?_of_mem once listed]
    rfl
  simp [ofFields?, key, required?, PartitionKey.ofJson?_of_repeating names which twice] at read

end Request

namespace Response

/-- The numbers of a response have at most 64 bits. -/
def Small : Response → Prop
  | .welcome parties => parties ≤ maxNatural
  | .handle h parties => h ≤ maxNatural ∧ parties ≤ maxNatural
  | .arrived index => index ≤ maxNatural
  | .status s => s.parties ≤ maxNatural ∧ s.waiting ≤ maxNatural ∧ s.generation ≤ maxNatural
  | .ok | .error _ _ => True

/-- The names that mean something in a response of this kind, besides its type. -/
def known : Response → List String
  | .welcome _ => ["parties"]
  | .handle _ _ => ["handle", "parties"]
  | .arrived _ => ["index"]
  | .status _ => ["parties", "n_waiting", "broken", "generation"]
  | .ok => []
  | .error _ _ => ["code", "message"]

/-- What a response has as its fields. -/
inductive Fields : Response → List (String × Json) → Prop where
  | welcome {parties : Nat} : Fields (.welcome parties) [("parties", number parties)]
  | handle {h : Handle} {parties : Nat} : Fields (.handle h parties) [("handle", number h), ("parties", number parties)]
  | arrived {index : Nat} : Fields (.arrived index) [("index", number index)]
  | status {s : Barrier.Status} : Fields (.status s) [("parties", number s.parties), ("n_waiting", number s.waiting),
      ("broken", .truth s.broken), ("generation", number s.generation)]
  | ok : Fields .ok []
  | error {code : Code} {message : String} {kind body : Bytes} : Spelled code.name kind → Spelled message body →
      Fields (.error code message) [("code", .quoted kind), ("message", .quoted body)]

variable {r r' : Response} {own : List (String × Json)} {text : Bytes} {members : List (Bytes × Json)}

private theorem type_not_known (r : Response) : "type" ∉ r.known := by
  cases r <;> simp [known]

private theorem Fields.proper (fields : r.Fields own) (small : r.Small) :
    ∀ n ∈ own, n.1 ≠ "type" ∧ Composed 101 n.2 := by
  cases fields with
  | welcome | arrived => simpa using composed_number small
  | handle => simpa using ⟨composed_number small.1, composed_number small.2⟩
  | status =>
    simpa using ⟨composed_number small.1, composed_number small.2.1, Composed.truth _, composed_number small.2.2⟩
  | ok => exact nofun
  | error kind body => simpa using ⟨Composed.text kind, Composed.text body⟩

/-- A response is read from its type and its fields. -/
private theorem Fields.read (fields : r.Fields own) (small : r.Small)
    (record : record? r.known (untyped members) = r.known.mapM (field? own)) :
    ofFields? r.name (untyped members) = some r := by
  cases fields with
  | @welcome parties =>
    have found : record? ["parties"] (untyped members) = some [some (number parties)] := record
    simp [name, ofFields?, found, required?, asNatural?_number small]
  | @handle h parties =>
    have found : record? ["handle", "parties"] (untyped members) =
        some [some (number h), some (number parties)] := record
    simp [name, ofFields?, found, required?, asNatural?_number small.1, asNatural?_number small.2]
  | @arrived index =>
    have found : record? ["index"] (untyped members) = some [some (number index)] := record
    simp [name, ofFields?, found, required?, asNatural?_number small]
  | @status s =>
    have found : record? ["parties", "n_waiting", "broken", "generation"] (untyped members) = some [
        some (number s.parties), some (number s.waiting), some (.truth s.broken), some (number s.generation)] := record
    simp [name, ofFields?, found, required?, asTruth?, asNatural?_number small.1, asNatural?_number small.2.1,
      asNatural?_number small.2.2]
  | ok => simp [name, ofFields?, untyped]
  | @error code message kind body which what =>
    have found : record? ["code", "message"] (untyped members) =
        some [some (.quoted kind), some (.quoted body)] := record
    have named : Code.ofName? code.name = some code := by cases code <;> rfl
    simp [name, ofFields?, found, required?, asText?, Code.ofJson?, alternative?, text?_of_spelled which,
      text?_of_spelled what, named]

theorem decode?_of_tagged (small : r.Small) (fields : r.Fields own) (tagged : Tagged r.name r.known own text) :
    decode? text = some r :=
  read_tagged tagged r.type_not_known (fields.proper small) fun _ => fields.read small

/-- What is read as a response of some kind is a record with the fields of that kind, where it has any. -/
private theorem record?_of_ofFields? {v : Json} (read : ofFields? r.name v = some r') :
    r.known = [] ∨ ∃ values, record? r.known v = some values := by
  cases r with
  | welcome | handle | arrived | status | error =>
    obtain ⟨values, found, -⟩ := Option.bind_eq_some_iff.mp read
    exact .inr ⟨values, found⟩
  | ok => exact .inl rfl

private theorem decode?_of_repeating (repeating : Repeating r.name r.known text) : decode? text = none :=
  unread_repeating ofFields? repeating r.type_not_known fun _ _ => record?_of_ofFields?

end Response

/-- Every request and every response is read from each of its layouts. From a layout in which the type or a known
    field stands twice nothing is read, nor from one in which a text of the key does. -/
theorem layout_does_not_matter :
    (∀ (r : Request) own text, r.Small → r.Fields own → Tagged r.name r.known own text →
      Request.decode? text = some r) ∧
    (∀ (r : Response) own text, r.Small → r.Fields own → Tagged r.name r.known own text →
      Response.decode? text = some r) ∧
    (∀ (r : Request) text, Repeating r.name r.known text → Request.decode? text = none) ∧
    (∀ (r : Response) text, Repeating r.name r.known text → Response.decode? text = none) ∧
    ∀ text, Request.RepeatingKey text → Request.decode? text = none :=
  ⟨fun _ _ _ => Request.decode?_of_tagged, fun _ _ _ => Response.decode?_of_tagged,
    fun _ _ => Request.decode?_of_repeating, fun _ _ => Response.decode?_of_repeating,
    fun _ => Request.decode?_of_repeatingKey⟩

/-- A wait with its type at the end, a timeout that is null, escaped letters and a field nobody knows; an error with a
    pair of surrogates; and a field, a type and a text of a key that stand twice. -/
theorem layout_does_not_matter_awkward :
    Request.decode? (Text.bytes ("\n\x7b \"more\": [\x7b\"type\":7,\"type\":null\x7d],\"timeout_ms\":null," ++
      "\"handle\":7,\"\\u0074ype\":\"wa\\u0069t\"\x7d")) = some (.wait 7 none) ∧
    Response.decode? (Text.bytes ("\x7b\"message\":\"\\ud83d\\uDE00\",\"code\":\"internal\"," ++
      "\"type\":\"error\"\x7d\r\n")) = some (.error .internal "😀") ∧
    Request.decode? (Text.bytes "\x7b\"handle\":7,\"type\":\"wait\",\"\\u0068andle\":7\x7d") = none ∧
    Response.decode? (Text.bytes "\x7b\"type\":\"ok\",\"type\":\"ok\"\x7d") = none ∧
    Request.decode? (Text.bytes "\x7b\"type\":\"get_barrier\",\"key\":\x7b\"end\":null,\"end\":\"\"\x7d\x7d") =
      none := by
  obtain ⟨requests, responses, repeated, repeated', keys⟩ := layout_does_not_matter
  have unit {c : Char} {bs : Bytes} (number : CodeUnit c.toNat bs) : Spelled (String.singleton c) (92 :: 117 :: bs) :=
    (Spelling.unit number).spelled
  have laid {members : List (Bytes × Json)} {text : Bytes} (gaps : List Bytes) (blanks : ∀ gap ∈ gaps, Blanks gap)
      (same : spread gaps (tokens (.object members)) = text) : Laid (tokens (.object members)) text :=
    same ▸ laid_spread blanks _
  have composed {s : String} : Composed 101 (.quoted (escaped s)) := .text (spelled_escaped s)
  have seven {depth : Nat} : Composed depth (number 7) := composed_number (by decide)
  refine ⟨?_, ?_, ?_, ?_, ?_⟩
  · have type : Spelled "type" (Text.bytes "\\u0074ype") :=
      (unit (c := 't') (.digits (by decide) (by decide) (by decide) (by decide))).append (spelled_escaped "ype")
    have wait : Spelled "wait" (Text.bytes "wa\\u0069t") :=
      ((spelled_escaped "wa").append
        (unit (c := 'i') (.digits (by decide) (by decide) (by decide) (by decide)))).append (spelled_escaped "t")
    have more : Composed 100 (.array [.object [(escaped "type", number 7), (escaped "type", .null)]]) := by
      refine .array fun item listed => ?_
      obtain rfl := List.mem_singleton.mp listed
      refine .object (fun m listed => ?_) fun m listed => ?_
      · rcases List.mem_pair.mp listed with rfl | rfl <;> exact ⟨_, spelled_escaped "type"⟩
      · rcases List.mem_pair.mp listed with rfl | rfl
        · exact seven
        · exact .null
    refine requests (.wait 7 none) _ _ ⟨by decide, nofun⟩ .waitNull ⟨_, _, wait, ⟨_, [("more", _)],
      .cons (spelled_escaped "more") (.cons (spelled_escaped "timeout_ms")
        (.cons (spelled_escaped "handle") (.cons type .nil))),
      List.reverse_perm [("type", _), ("handle", _), ("timeout_ms", _), ("more", _)],
      List.forall_mem_singleton.mpr ⟨by decide, more⟩⟩, laid [[10], [32], [], [32]] (by decide) ?_⟩
    decide +kernel
  · have pair : Spelling '😀' (Text.bytes "\\ud83d\\uDE00") :=
      .pair (by decide) (.digits (by decide) (by decide) (by decide) (by decide))
        (.digits (by decide) (by decide) (by decide) (by decide))
    refine responses (.error .internal "😀") _ _ trivial (.error (spelled_escaped _) pair.spelled) ⟨_, _,
      spelled_escaped _, ⟨_, [], .cons (spelled_escaped "message") (.cons (spelled_escaped "code")
        (.cons (spelled_escaped "type") .nil)),
      List.reverse_perm [("type", _), ("code", _), ("message", _)], nofun⟩,
      laid [[], [], [], [], [], [], [], [], [], [], [], [], [], [13, 10]] (by decide) ?_⟩
    decide +kernel
  · have handle : Spelled "handle" (Text.bytes "\\u0068andle") :=
      (unit (c := 'h') (.digits (by decide) (by decide) (by decide) (by decide))).append (spelled_escaped "andle")
    refine repeated (.wait 7 none) _ ⟨[("handle", number 7), ("type", _), ("handle", number 7)], ⟨_, _,
      spelled_escaped _, .tail _ (.head _), .cons (spelled_escaped "handle") (.cons (spelled_escaped "type")
        (.cons handle .nil)), ?_, laid [] (by decide) ?_⟩, "handle", by decide, ?_⟩
    · simpa [Request.name] using ⟨seven, composed, seven⟩
    · decide +kernel
    · simp [valuesOf]
  · let type : String × Json := ("type", .quoted (escaped "ok"))
    refine repeated' .ok _ ⟨[type, type], ⟨_, _, spelled_escaped _, .head _,
      .cons (spelled_escaped "type") (.cons (spelled_escaped "type") .nil), ?_, laid [] (by decide) ?_⟩,
      "type", by decide, ?_⟩
    · simpa using composed
    · decide +kernel
    · simp [type, valuesOf]
  · have key : Composed 101 (.object [(escaped "end", .null), (escaped "end", .quoted (escaped ""))]) := by
      refine .object (fun m listed => ?_) fun m listed => ?_
      · rcases List.mem_pair.mp listed with rfl | rfl <;> exact ⟨_, spelled_escaped "end"⟩
      · rcases List.mem_pair.mp listed with rfl | rfl
        · exact .null
        · exact .text (spelled_escaped "")
    refine keys _ ⟨[("type", _), ("key", _)], _, [("end", .null), ("end", .quoted (escaped ""))], ⟨_, _,
      spelled_escaped _, .head _,
      .cons (spelled_escaped "type") (.cons (spelled_escaped "key") .nil), ?_, laid [] (by decide) ?_⟩,
      .tail _ (.head _), .cons (spelled_escaped "end") (.cons (spelled_escaped "end") .nil), "end", by decide, ?_⟩
    · simpa using ⟨composed, key⟩
    · decide +kernel
    · simp [valuesOf]

end Lockstep
