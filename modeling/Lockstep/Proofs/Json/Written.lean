import Lockstep.Proofs.Json.Tagged

namespace Lockstep.Json

variable {gap bytes bytes' : Bytes} {ts ts' : List Token} {fields : List (String × String)}
  {members own : List (String × Json)}

private theorem Laid.behind_blanks (blanks : Blanks gap) (laid : Laid ts bytes) : Laid ts (gap ++ bytes) := by
  cases laid with
  | nil more =>
    refine .nil fun b member => ?_
    rcases List.mem_append.mp member with before | after
    · exact blanks b before
    · exact more b after
  | @cons gap' text t ts more rest =>
    rw [← List.append_assoc]
    refine .cons (fun b member => ?_) rest
    rcases List.mem_append.mp member with before | after
    · exact blanks b before
    · exact more b after

private theorem Laid.append (first : Laid ts bytes) (second : Laid ts' bytes') :
    Laid (ts ++ ts') (bytes ++ bytes') := by
  induction first with
  | nil blanks => exact second.behind_blanks blanks
  | cons blanks _ ih =>
    rw [List.cons_append, List.append_assoc, List.append_assoc]
    exact .cons blanks ih

/-- A token that stands alone. -/
private theorem laid_token (t : Token) : Laid [t] t.written := by
  have laid : Laid [t] ([] ++ (t.written ++ [])) := .cons blanks_nil (.nil blanks_nil)
  rwa [List.nil_append, List.append_nil] at laid

private theorem laid_text (s : String) : Laid [.quoted (escaped s)] (Text.bytes (Print.text s)) := by
  rw [bytes_text]
  exact laid_token (.quoted (escaped s))

/-- A field is written as this member. -/
def Entry (field : String × String) (member : String × Json) : Prop :=
  member.1 = field.1 ∧ Laid (tokens member.2) (Text.bytes field.2)

theorem Entry.text (name s : String) : Entry (name, Print.text s) (name, .quoted (escaped s)) :=
  ⟨rfl, laid_text s⟩

theorem Entry.natural (name : String) (n : Nat) : Entry (name, Print.natural n) (name, number n) :=
  ⟨rfl, laid_token (.numeral (digits n))⟩

theorem Entry.truth (name : String) (b : Bool) : Entry (name, Print.truth b) (name, .truth b) :=
  ⟨rfl, laid_token (.truth b)⟩

/-- The object with these members. -/
def ofMembers (members : List (String × Json)) : Json :=
  .object (members.map fun (name, value) => (escaped name, value))

/-- The members of an object follow one another with a comma between any two. -/
private theorem laid_members (entries : List.Forall₂ Entry fields members) :
    Laid (joined (members.map fun m => memberOf (escaped m.1, m.2))) (Text.bytes (Print.members fields)) := by
  induction entries with
  | nil => exact .nil blanks_nil
  | @cons field member fields members head rest ih =>
    obtain ⟨name, written⟩ := field
    obtain ⟨name', value⟩ := member
    obtain ⟨same, laid⟩ := head
    obtain rfl : name' = name := same
    have colon : Text.bytes ":" = [58] := by decide
    have first : Laid (memberOf (escaped name', value)) (Text.bytes (Print.text name' ++ ":" ++ written)) := by
      rw [Text.bytes_append, Text.bytes_append, colon]
      exact ((laid_text name').append (laid_token .colon)).append laid
    cases rest with
    | nil => exact first
    | cons next others =>
      have comma : Text.bytes "," = [44] := by decide
      rw [Print.members, Text.bytes_append, Text.bytes_append, comma]
      · have both := (first.append (laid_token .comma)).append ih
        simpa [joined, Token.written] using both
      · exact List.cons_ne_nil _ _

private theorem laid_object (entries : List.Forall₂ Entry fields members) :
    Laid (tokens (ofMembers members)) (Text.bytes (Print.object fields)) := by
  have opens : Text.bytes "\x7b" = [123] := by decide
  have closes : Text.bytes "\x7d" = [125] := by decide
  have whole := ((laid_token .openObject).append (laid_members entries)).append (laid_token .closeObject)
  rw [Print.object, Text.bytes_append, Text.bytes_append, opens, closes, ofMembers, tokens_object, List.map_map]
  exact whole

theorem Entry.object (name : String) (entries : List.Forall₂ Entry fields members) :
    Entry (name, Print.object fields) (name, ofMembers members) :=
  ⟨rfl, laid_object entries⟩

private theorem named_written (members : List (String × Json)) :
    Named members (members.map fun m => (escaped m.1, m.2)) := by
  rw [Named, List.forall₂_map_right_iff]
  exact List.forall₂_same.mpr fun n _ => ⟨spelled_escaped n.1, rfl⟩

theorem arranged_written (own : List (String × Json)) (known : List String) :
    Arranged own known (own.map fun n => (escaped n.1, n.2)) :=
  ⟨own, [], named_written own, by rw [List.append_nil], nofun⟩

/-- What is written for a tagged record is one of its layouts. -/
theorem tagged_written {variant : String} {known : List String} (entries : List.Forall₂ Entry fields own) :
    Tagged variant known own (Text.bytes (Print.object (("type", Print.text variant) :: fields))) :=
  ⟨escaped variant, _, spelled_escaped variant, arranged_written _ _,
    laid_object (.cons (.text "type" variant) entries)⟩

end Lockstep.Json
