import Lockstep.Proofs.Json.Members

namespace Lockstep.Json

variable {α : Type} {variant : String} {known : List String} {own named : List (String × Json)} {text : Bytes}
  {ofFields? : String → Json → Option α} {message : α}

/-- A layout of a record with this type and these fields, next to members that are not known. -/
def Tagged (variant : String) (known : List String) (own : List (String × Json)) (text : Bytes) : Prop :=
  ∃ tag members, Spelled variant tag ∧ Arranged (("type", .quoted tag) :: own) ("type" :: known) members ∧
    Laid (tokens (.object members)) text

/-- A layout of an object with these members, one of which is the type. -/
def Typed (variant : String) (named : List (String × Json)) (text : Bytes) : Prop :=
  ∃ tag members, Spelled variant tag ∧ ("type", .quoted tag) ∈ named ∧ Named named members ∧
    (∀ m ∈ members, Composed 101 m.2) ∧ Laid (tokens (.object members)) text

/-- A layout of an object with this type, in which the type or a known field stands twice. -/
def Repeating (variant : String) (known : List String) (text : Bytes) : Prop :=
  ∃ named, Typed variant named text ∧ ∃ name ∈ "type" :: known, 2 ≤ (valuesOf name named).length

/-- Every layout is a sound text, and a record with this type and these fields. -/
theorem sound?_of_tagged (tagged : Tagged variant known own text) (others : "type" ∉ known)
    (each : ∀ n ∈ own, n.1 ≠ "type" ∧ Composed 101 n.2) :
    ∃ members, sound? text = some (.object members) ∧ tagged? (.object members) = some (variant, untyped members) ∧
      record? known (untyped members) = known.mapM (field? own) := by
  obtain ⟨tag, members, spelled, arranged, laid⟩ := tagged
  have composed : ∀ n ∈ ("type", Json.quoted tag) :: own, Composed 101 n.2 := by
    intro n member
    rcases List.mem_cons.mp member with rfl | field
    · exact .text spelled
    · exact (each n field).2
  refine ⟨members, ?_, tagged?_arranged spelled arranged others fun n field => (each n field).1⟩
  exact sound?_of_laid arranged.spelled (arranged.composed composed (by decide)) (by decide) laid

/-- A message is read from its type and its fields. -/
theorem read_tagged (tagged : Tagged variant known own text) (others : "type" ∉ known)
    (each : ∀ n ∈ own, n.1 ≠ "type" ∧ Composed 101 n.2)
    (read : ∀ members, record? known (untyped members) = known.mapM (field? own) →
      ofFields? variant (untyped members) = some message) :
    ((sound? text).bind fun v => (tagged? v).bind fun e => ofFields? e.1 e.2) = some message := by
  obtain ⟨members, sound, type, record⟩ := sound?_of_tagged tagged others each
  rw [sound, Option.bind_some, type, Option.bind_some]
  exact read members record

/-- What is read from an object is read from its fields. Its type stands there once. -/
theorem fields_of_typed (ofFields? : String → Json → Option α) (typed : Typed variant named text)
    (read : ((sound? text).bind fun v => (tagged? v).bind fun e => ofFields? e.1 e.2) = some message) :
    ∃ members, named? members = some named ∧ (valuesOf "type" named).length ≤ 1 ∧
      ofFields? variant (untyped members) = some message := by
  obtain ⟨tag, members, spelled, listed, names, composed, laid⟩ := typed
  have each : ∀ m ∈ members, ∃ name, Spelled name m.1 := by
    intro m member
    obtain ⟨name, body, -⟩ := names.mem member
    exact ⟨name, body⟩
  have found := named?_of_named names
  rw [sound?_of_laid each composed (by decide) laid, Option.bind_some] at read
  obtain ⟨⟨variant', v⟩, type, read⟩ := Option.bind_eq_some_iff.mp read
  obtain ⟨rfl, named', found', tag', single, text'⟩ := tagged?_eq_some.mp type
  obtain rfl : named = named' := Option.some.inj (found.symm.trans found')
  have once : (valuesOf "type" named).length ≤ 1 := isSome_field?.mp (by rw [single]; rfl)
  obtain rfl : Json.quoted tag = tag' := by
    rw [field?_of_mem once listed] at single
    exact Option.some.inj (Option.some.inj single)
  obtain rfl : variant = variant' := Option.some.inj ((text?_of_spelled spelled).symm.trans text')
  exact ⟨members, found, once, read⟩

/-- No message is read from an object in which the type or a known field stands twice. -/
theorem unread_repeating (ofFields? : String → Json → Option α) (repeating : Repeating variant known text)
    (others : "type" ∉ known)
    (records : ∀ members message, ofFields? variant (untyped members) = some message →
      known = [] ∨ ∃ values, record? known (untyped members) = some values) :
    ((sound? text).bind fun v => (tagged? v).bind fun e => ofFields? e.1 e.2) = none := by
  obtain ⟨named, typed, name, listed, twice⟩ := repeating
  by_contra read
  obtain ⟨message, read⟩ := Option.ne_none_iff_exists'.mp read
  obtain ⟨members, found, once, read⟩ := fields_of_typed ofFields? typed read
  rcases List.mem_cons.mp listed with rfl | listed
  · omega
  · obtain rfl | ⟨values, record⟩ := records members message read
    · cases listed
    have single := single_of_untyped found others record name listed
    omega

end Lockstep.Json
