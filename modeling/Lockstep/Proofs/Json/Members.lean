import Lockstep.Json.Record
import Lockstep.Proofs.Json.Layout
import Mathlib.Data.List.Forall2

namespace Lockstep.Json

variable {named named' own extras : List (String × Json)} {members : List (Bytes × Json)} {name variant : String}
  {names known : List String} {v : Json} {tag : Bytes}

/-- A number as the value of a field. -/
def number (n : Nat) : Json :=
  .numeral (digits n)

theorem composed_number {depth n : Nat} (small : n ≤ maxNatural) : Composed depth (number n) :=
  .natural small

theorem asNatural?_number {n : Nat} (small : n ≤ maxNatural) : asNatural? (number n) = some n :=
  natural?_digits small

theorem asOptional?_number {n : Nat} (small : n ≤ maxNatural) :
    asOptional? asNatural? (number n) = some (some n) := by
  rw [number, asOptional?, ← number, asNatural?_number small]
  · rfl
  · exact nofun

/-- The members with these names, spelled in any way. -/
def Named : List (String × Json) → List (Bytes × Json) → Prop :=
  List.Forall₂ fun n m => Spelled n.1 m.1 ∧ n.2 = m.2

theorem Named.cons {body : Bytes} (spelled : Spelled name body) (others : Named named members) :
    Named ((name, v) :: named) ((body, v) :: members) :=
  List.Forall₂.cons ⟨spelled, rfl⟩ others

private theorem named?_cons {m : Bytes × Json} : named? (m :: members) = some named ↔
    ∃ name rest, text? m.1 = some name ∧ named? members = some rest ∧ named = (name, m.2) :: rest := by
  unfold named?
  rw [List.mapM_cons]
  simp only [Option.bind_eq_bind, Option.bind_eq_some_iff, Option.map_eq_some_iff, Option.pure_def, Option.some.injEq]
  constructor
  · rintro ⟨_, ⟨name, read, rfl⟩, rest, others, rfl⟩
    exact ⟨name, rest, read, others, rfl⟩
  · rintro ⟨name, rest, read, others, rfl⟩
    exact ⟨_, ⟨name, read, rfl⟩, rest, others, rfl⟩

theorem named?_of_named (spelled : Named named members) : named? members = some named := by
  induction spelled with
  | nil => rfl
  | @cons n m named members first _ ih =>
    obtain ⟨spelled, same⟩ := first
    exact named?_cons.mpr ⟨n.1, named, text?_of_spelled spelled, ih, by rw [← same]⟩

theorem Named.mem (spelled : Named named members) {m : Bytes × Json} (member : m ∈ members) :
    ∃ name, Spelled name m.1 ∧ (name, m.2) ∈ named := by
  induction spelled with
  | nil => cases member
  | @cons n m' named members first _ ih =>
    rcases List.mem_cons.mp member with rfl | later
    · exact ⟨n.1, first.1, by rw [← first.2]; exact List.mem_cons_self ..⟩
    · obtain ⟨name, spelled, listed⟩ := ih later
      exact ⟨name, spelled, List.mem_cons_of_mem _ listed⟩

/-- Without its type a record has its other members. -/
private theorem named?_filter (found : named? members = some named) :
    named? (members.filter fun (name, _) => text? name ≠ some "type") = some (named.filter (·.1 ≠ "type")) := by
  induction members generalizing named with
  | nil =>
    cases found
    rfl
  | cons m members ih =>
    obtain ⟨name, rest, read, others, rfl⟩ := named?_cons.mp found
    by_cases type : name = "type"
    · simpa [List.filter_cons, read, type] using ih others
    · have here := named?_cons.mpr ⟨name, _, read, ih others, rfl⟩
      simpa [List.filter_cons, read, type] using here

private theorem valuesOf_append (name : String) (named named' : List (String × Json)) :
    valuesOf name (named ++ named') = valuesOf name named ++ valuesOf name named' := by
  simp [valuesOf]

private theorem valuesOf_eq_nil : valuesOf name named = [] ↔ ∀ n ∈ named, n.1 ≠ name := by
  rw [valuesOf, List.map_eq_nil_iff, List.filter_eq_nil_iff]
  simp

private theorem valuesOf_perm (same : named.Perm named') (name : String) :
    (valuesOf name named).Perm (valuesOf name named') :=
  (same.filter _).map _

private theorem valuesOf_filter (other : name ≠ "type") :
    valuesOf name (named.filter (·.1 ≠ "type")) = valuesOf name named := by
  rw [valuesOf, valuesOf, List.filter_filter]
  congr 1
  refine List.filter_congr fun n _ => ?_
  by_cases here : n.1 = name <;> simp [here, other]

/-- Fields are looked up in any order. -/
private theorem field?_perm (same : named.Perm named') (name : String) : field? named name = field? named' name := by
  have values := valuesOf_perm same name
  unfold field?
  cases found : valuesOf name named' with
  | nil =>
    rw [found] at values
    rw [List.perm_nil.mp values]
  | cons v more =>
    rw [found] at values
    cases more with
    | nil => rw [List.perm_singleton.mp values]
    | cons w more =>
      have many := values.length_eq
      match whole : valuesOf name named with
      | [] => simp [whole] at many
      | [_] => simp [whole] at many
      | _ :: _ :: _ => rfl

theorem isSome_field? : (field? named name).isSome ↔ (valuesOf name named).length ≤ 1 := by
  unfold field?
  match valuesOf name named with
  | [] => simp
  | [_] => simp
  | _ :: _ :: _ => simp

/-- A member that stands once is the field of its name. -/
theorem field?_of_mem (single : (valuesOf name named).length ≤ 1) (listed : (name, v) ∈ named) :
    field? named name = some (some v) := by
  have value : v ∈ valuesOf name named :=
    List.mem_map.mpr ⟨_, List.mem_filter.mpr ⟨listed, decide_eq_true rfl⟩, rfl⟩
  unfold field?
  match values : valuesOf name named with
  | [] => simp [values] at value
  | [w] => simp_all
  | _ :: _ :: _ => simp [values] at single

/-- A record has these members in any order, and others that are not too deep under names that are not known. -/
def Arranged (own : List (String × Json)) (known : List String) (members : List (Bytes × Json)) : Prop :=
  ∃ named extras, Named named members ∧ named.Perm (own ++ extras) ∧ ∀ e ∈ extras, e.1 ∉ known ∧ Composed 100 e.2

theorem Arranged.spelled (arranged : Arranged own known members) : ∀ m ∈ members, ∃ name, Spelled name m.1 := by
  intro m member
  obtain ⟨named, extras, spelled, -⟩ := arranged
  obtain ⟨name, body, -⟩ := spelled.mem member
  exact ⟨name, body⟩

theorem Arranged.composed {depth : Nat} (arranged : Arranged own known members)
    (each : ∀ n ∈ own, Composed depth n.2) (deep : 100 ≤ depth) : ∀ m ∈ members, Composed depth m.2 := by
  intro m member
  obtain ⟨named, extras, spelled, order, others⟩ := arranged
  obtain ⟨name, -, listed⟩ := spelled.mem member
  rcases List.mem_append.mp (order.mem_iff.mp listed) with here | extra
  · exact each _ here
  · exact (others _ extra).2.mono deep

private theorem field?_of_perm (order : named.Perm (own ++ extras)) (others : ∀ e ∈ extras, e.1 ≠ name) :
    field? named name = field? own name := by
  have none : valuesOf name extras = [] := valuesOf_eq_nil.mpr others
  rw [field?_perm order, field?, field?, valuesOf_append, none, List.append_nil]

private theorem isSome_of_mapM {α β : Type} {f : α → Option β} {xs : List α} {ys : List β}
    (found : xs.mapM f = some ys) : ∀ x ∈ xs, (f x).isSome := by
  induction xs generalizing ys with
  | nil => exact nofun
  | cons x xs ih =>
    rw [List.mapM_cons] at found
    simp only [Option.bind_eq_bind, Option.bind_eq_some_iff] at found
    obtain ⟨y, first, rest, others, -⟩ := found
    intro x' member
    rcases List.mem_cons.mp member with rfl | later
    · rw [first]
      rfl
    · exact ih others x' later

/-- The record without its type. -/
def untyped (members : List (Bytes × Json)) : Json :=
  .object (members.filter fun (name, _) => text? name ≠ some "type")

theorem tagged?_eq_some : tagged? (.object members) = some (variant, v) ↔
    v = untyped members ∧ ∃ named, named? members = some named ∧
      ∃ tag, field? named "type" = some (some tag) ∧ asText? tag = some variant := by
  simp only [tagged?, Option.bind_eq_bind, Option.bind_eq_some_iff, Option.some.injEq, Prod.mk.injEq, untyped]
  constructor
  · rintro ⟨named, names, tag, type, variant', text, rfl, rfl⟩
    obtain ⟨tag, rfl, read⟩ := text
    exact ⟨rfl, named, names, tag, type, read⟩
  · rintro ⟨rfl, named, names, tag, type, read⟩
    exact ⟨named, names, _, type, variant, ⟨tag, rfl, read⟩, rfl, rfl⟩

private theorem mapM_field?_congr (same : ∀ name ∈ names, field? named name = field? named' name) :
    names.mapM (field? named) = names.mapM (field? named') := by
  induction names with
  | nil => rfl
  | cons name names ih =>
    rw [List.mapM_cons, List.mapM_cons, same name (List.mem_cons_self ..),
      ih fun name member => same name (List.mem_cons_of_mem _ member)]

theorem record?_untyped (found : named? members = some named) (others : "type" ∉ names) :
    record? names (untyped members) = names.mapM (field? named) := by
  rw [untyped, record?, named?_filter found, Option.bind_eq_bind, Option.bind_some]
  refine mapM_field?_congr fun name member => ?_
  have other : name ≠ "type" := fun same => others (same ▸ member)
  rw [field?, field?, valuesOf_filter other]

/-- In whatever order, a record has the fields that are its own. -/
theorem record?_arranged (arranged : Arranged own names members) :
    record? names (.object members) = names.mapM (field? own) := by
  obtain ⟨named, extras, spelled, order, apart⟩ := arranged
  rw [record?, named?_of_named spelled, Option.bind_eq_bind, Option.bind_some]
  refine mapM_field?_congr fun name member => field?_of_perm order fun e listed same => ?_
  exact (apart e listed).1 (same ▸ member)

/-- So does a tagged record. -/
theorem tagged?_arranged (spelled : Spelled variant tag)
    (arranged : Arranged (("type", .quoted tag) :: own) ("type" :: names) members)
    (others : "type" ∉ names) (apart : ∀ n ∈ own, n.1 ≠ "type") :
    tagged? (.object members) = some (variant, untyped members) ∧
      record? names (untyped members) = names.mapM (field? own) := by
  obtain ⟨named, extras, names', order, unknown⟩ := arranged
  have found := named?_of_named names'
  constructor
  · refine tagged?_eq_some.mpr ⟨rfl, named, found, .quoted tag, ?_, text?_of_spelled spelled⟩
    have alone : valuesOf "type" own = [] := valuesOf_eq_nil.mpr apart
    have single : valuesOf "type" (("type", .quoted tag) :: own) = [.quoted tag] := by
      simpa [valuesOf] using alone
    rw [field?_of_perm order fun e listed same => (unknown e listed).1 (same ▸ List.mem_cons_self ..), field?, single]
  · rw [record?_untyped found others]
    refine mapM_field?_congr fun name member => ?_
    have other : name ≠ "type" := fun same => others (same ▸ member)
    rw [field?_of_perm order fun e listed same => (unknown e listed).1 (same ▸ List.mem_cons_of_mem _ member)]
    simp [field?, valuesOf, other.symm]

/-- The fields of a record that is read do not stand twice. -/
theorem single_of_record? {values : List (Option Json)} (found : named? members = some named)
    (read : record? names (.object members) = some values) : ∀ name ∈ names, (valuesOf name named).length ≤ 1 := by
  rw [record?, found, Option.bind_eq_bind, Option.bind_some] at read
  intro name member
  exact isSome_field?.mp (isSome_of_mapM read name member)

theorem single_of_untyped {values : List (Option Json)} (found : named? members = some named) (others : "type" ∉ names)
    (read : record? names (untyped members) = some values) : ∀ name ∈ names, (valuesOf name named).length ≤ 1 := by
  intro name member
  have other : name ≠ "type" := fun same => others (same ▸ member)
  rw [← valuesOf_filter other]
  exact single_of_record? (named?_filter found) read name member

end Lockstep.Json
