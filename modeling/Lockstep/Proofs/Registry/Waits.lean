import Lockstep.Registry.Run

namespace Lockstep.Registry.Run

variable {Name : Type} [DecidableEq Name] {r : Run Name} {name : Name}

theorem find?_create (absent : r.find? name = none) (place : Place) (timeout : Option Nat) (other : Name) :
    (r.create name place timeout).find? other =
      if other = name then some ⟨name, place, { timeout }⟩ else r.find? other := by
  have made : r.create name place timeout = { r with waits := r.waits ++ [⟨name, place, { timeout }⟩] } := by
    simp [create, absent]
  rw [made]
  unfold find? at absent ⊢
  rw [List.find?_append]
  by_cases same : other = name
  · subst same
    simp [absent]
  · rw [if_neg same, List.find?_singleton]
    simp [Ne.symm same]

theorem find?_remove (r : Run Name) (name other : Name) :
    (r.remove name).find? other = if other = name then none else r.find? other := by
  unfold find? remove
  rw [List.find?_filter]
  by_cases same : other = name
  · subst same
    simp
  · rw [if_neg same]
    congr 1
    funext p
    by_cases here : p.name = other
    · simp [here, same]
    · simp [here]

theorem find?_put (r : Run Name) (name : Name) (w : Barrier.Wait) (other : Name) :
    (r.put name w).find? other =
      if other = name then (r.find? name).map fun p => { p with wait := w } else r.find? other := by
  unfold find? put
  rw [List.find?_map]
  have names : (fun p : Pending Name => decide (p.name = other)) ∘
      (fun p => if p.name = name then { p with wait := w } else p) = fun p => decide (p.name = other) := by
    funext p
    by_cases here : p.name = name
    · simp [here]
    · simp [here]
  rw [names]
  by_cases same : other = name
  · subst same
    rw [if_pos rfl]
    cases found : r.waits.find? (fun p => p.name = other) with
    | none => rfl
    | some p =>
      have own : p.name = other := by simpa using List.find?_some found
      simp [own]
  · rw [if_neg same]
    cases found : r.waits.find? (fun p => p.name = other) with
    | none => rfl
    | some p =>
      have own : p.name = other := by simpa using List.find?_some found
      have different : p.name ≠ name := by
        rw [own]
        exact same
      simp [different]

end Lockstep.Registry.Run
