import Lockstep.Settings.Load

namespace Lockstep.Settings

@[simp] theorem Value.entry?_table (entries : List (String × Value)) (field : String) :
    Value.entry? (.table entries) field = (entries.find? (·.1 = field)).map (·.2) := rfl

private theorem Value.find?_entries (tree : Value) (field : String) :
    (tree.entries.find? (·.1 = field)).map (·.2) = tree.entry? field := by
  cases tree <;> rfl

private theorem Value.find?_setEntry (name field : String) (value : Value) (entries : List (String × Value)) :
    ((setEntry name value entries).find? (·.1 = field)).map (·.2) =
      if name = field then some value else (entries.find? (·.1 = field)).map (·.2) := by
  induction entries with
  | nil => by_cases here : name = field <;> simp [setEntry, here]
  | cons entry entries ih =>
    obtain ⟨other, w⟩ := entry
    by_cases same : other = name
    · subst same
      by_cases here : other = field <;> simp [setEntry, here]
    · by_cases there : other = field
      · subst there
        simp [setEntry, same, Ne.symm same]
      · simpa [setEntry, same, there] using ih

/-- A place is in the entry that it begins with. -/
theorem Path.entry?_set (value : Value) (name : String) (rest : Path) (tree : Value) (field : String) :
    Value.entry? (Path.set value (.entry name :: rest) tree) field =
      if name = field then some (Path.set value rest ((tree.entry? name).getD .absent)) else tree.entry? field := by
  rw [Path.set, Value.entry?_table, Value.find?_setEntry, Value.find?_entries]

/-- The entry of the root table that a place lies in. -/
def Path.field? : Path → Option String
  | .entry name :: _ => some name
  | _ => none

/-- The field that a variable sets, or sets a place in, if its name is one of ours. -/
def fieldOfVariable? (name : String) : Option String :=
  (keyOfVariable? name).bind fun key => (placeOf key).field?

example : fieldOfVariable? "app_Port[0]__X" = some "port" := by decide +kernel

private theorem placeOf_begins (key : String) : ∃ name rest, placeOf key = .entry name :: rest := by
  unfold placeOf
  cases parsed : Path.parse? key with
  | none => exact ⟨key, [], rfl⟩
  | some path =>
    simp only [Path.parse?, Option.bind_eq_bind, Option.bind_eq_some_iff] at parsed
    obtain ⟨⟨name, _⟩, _, steps, _, path⟩ := parsed
    cases path
    exact ⟨name, steps, rfl⟩

/-- What a variable does to one field. -/
private theorem entry?_setVariable (entry : String × String) (field : String) :
    (fieldOfVariable? entry.1 = some field ∧ ∃ rest, ∀ tree : Value, Value.entry? (setVariable tree entry) field =
        some (Path.set (.ofText entry.2) rest ((tree.entry? field).getD .absent))) ∨
      (fieldOfVariable? entry.1 ≠ some field ∧
        ∀ tree : Value, Value.entry? (setVariable tree entry) field = tree.entry? field) := by
  cases found : keyOfVariable? entry.1 with
  | none => exact .inr (by simp [fieldOfVariable?, setVariable, found])
  | some key =>
    obtain ⟨name, rest, place⟩ := placeOf_begins key
    have sets : fieldOfVariable? entry.1 = some name := by simp [fieldOfVariable?, found, place, Path.field?]
    have set (tree : Value) : setVariable tree entry = Path.set (.ofText entry.2) (.entry name :: rest) tree := by
      simp only [setVariable, found, place]
    by_cases here : name = field
    · subst here
      exact .inl ⟨sets, rest, fun tree => by rw [set, Path.entry?_set, if_pos rfl]⟩
    · exact .inr ⟨by simpa [sets] using here, fun tree => by rw [set, Path.entry?_set, if_neg here]⟩

/-- The variables that set a field or a place in it, in their order. -/
def settersOf (field : String) (entries : List (String × String)) : List (String × String) :=
  entries.filter fun entry => fieldOfVariable? entry.1 = some field

/-- A field is what the variables that set it, or a place in it, make of it. -/
theorem entry?_ofVariables (entries : List (String × String)) (field : String) :
    Value.entry? (ofVariables entries) field = Value.entry? (ofVariables (settersOf field entries)) field := by
  have apart (tree tree' : Value) (same : tree.entry? field = tree'.entry? field) :
      Value.entry? (entries.foldl setVariable tree) field =
        Value.entry? ((settersOf field entries).foldl setVariable tree') field := by
    induction entries generalizing tree tree' with
    | nil => exact same
    | cons entry entries ih =>
      rcases entry?_setVariable entry field with ⟨here, rest, set⟩ | ⟨other, kept⟩
      · simp only [settersOf, List.filter_cons, here, decide_true, if_true, List.foldl_cons]
        exact ih _ _ (by rw [set tree, set tree', same])
      · simp only [settersOf, List.filter_cons, other, decide_false, Bool.false_eq_true, if_false, List.foldl_cons]
        exact ih _ _ ((kept tree).trans same)
  exact apart _ _ rfl

end Lockstep.Settings
