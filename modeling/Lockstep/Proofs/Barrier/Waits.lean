import Lockstep.Proofs.Barrier.Moves
import Mathlib.Data.List.Nodup
import Mathlib.Data.List.Perm.Basic

namespace Lockstep.Barrier

variable {Name : Type}

/-- The wait that an operation is about, if it is about one. -/
def Operation.name? : Operation Name → Option Name
  | .create name _ => some name
  | .poll name => some name
  | .drop name => some name
  | _ => none

theorem Operation.name?_eq_some {op : Operation Name} {name : Name} (about : op.name? = some name) :
    (∃ timeout, op = .create name timeout) ∨ op = .poll name ∨ op = .drop name := by
  cases op with
  | create n timeout =>
    cases about
    exact .inl ⟨timeout, rfl⟩
  | poll n =>
    cases about
    exact .inr (.inl rfl)
  | drop n =>
    cases about
    exact .inr (.inr rfl)
  | _ => cases about

/-- The operation is about none of these waits. -/
def Operation.spares (names : Name → Bool) (op : Operation Name) : Bool :=
  op.name?.all fun name => !names name

namespace Run

variable [DecidableEq Name] {r : Run Name} {name : Name} {w : Wait}

theorem create_found (found : r.find? name = some w) (timeout : Option Nat) : r.create name timeout = r := by
  simp [create, found]

theorem poll_absent (absent : r.find? name = none) : r.poll name = r := by
  simp [poll, absent]

theorem poll_pending (found : r.find? name = some w) {w' : Wait}
    (pending : (r.barrier.poll r.now w).2.1 = .pending w') :
    r.poll name = { r.put name w' with
      barrier := (r.barrier.poll r.now w).1, meter := r.meter + (r.barrier.poll r.now w).2.2 } := by
  simp [poll, found, pending, put]

theorem poll_done (found : r.find? name = some w) {result : Result}
    (done : (r.barrier.poll r.now w).2.1 = .done result) :
    r.poll name = { r.remove name with
      barrier := (r.barrier.poll r.now w).1, meter := r.meter + (r.barrier.poll r.now w).2.2,
      results := r.results ++ [(name, result)] } := by
  simp [poll, found, done, remove]

theorem drop_absent (absent : r.find? name = none) : r.drop name = r := by
  simp [drop, absent]

theorem drop_found (found : r.find? name = some w) :
    r.drop name = { r.remove name with
      barrier := (r.barrier.drop w).1, meter := r.meter + (r.barrier.drop w).2 } := by
  simp [drop, found]

theorem mem_of_find? (found : r.find? name = some w) : (name, w) ∈ r.waits := by
  obtain ⟨e, first, rfl⟩ := Option.map_eq_some_iff.mp found
  have named : e.1 = name := by simpa using List.find?_some first
  rw [← named]
  exact List.mem_of_find?_eq_some first

private theorem not_mem_of_find? (absent : r.find? name = none) (w : Wait) : (name, w) ∉ r.waits := by
  simp only [find?, Option.map_eq_none_iff, List.find?_eq_none] at absent
  intro member
  simpa using absent _ member

private theorem remove_absent (absent : r.find? name = none) : r.remove name = r := by
  have all : r.waits.filter (·.1 ≠ name) = r.waits := by
    refine List.filter_eq_self.mpr fun e member => ?_
    simp only [ne_eq, decide_eq_true_eq]
    rintro rfl
    exact not_mem_of_find? absent e.2 member
  rw [remove, all]

theorem remove_create (absent : r.find? name = none) (timeout : Option Nat) :
    (r.create name timeout).remove name = r := by
  refine Eq.trans ?_ (remove_absent absent)
  simp [create, absent, remove, List.filter_append]

theorem remove_put_self (r : Run Name) (name : Name) (w : Wait) : (r.put name w).remove name = r.remove name := by
  obtain ⟨b, now, waits, results, meter⟩ := r
  simp only [put, remove]
  congr 1
  induction waits with
  | nil => rfl
  | cons e waits ih => by_cases here : e.1 = name <;> simp_all

def Distinct (r : Run Name) : Prop :=
  (r.waits.map (·.1)).Nodup

theorem Distinct.entry (distinct : r.Distinct) (found : r.find? name = some w) {e : Name × Wait}
    (member : e ∈ r.waits) (named : e.1 = name) : e = (name, w) :=
  List.inj_on_of_nodup_map distinct member (mem_of_find? found) named

theorem Distinct.find?_of_mem (distinct : r.Distinct) (member : (name, w) ∈ r.waits) : r.find? name = some w := by
  cases found : r.find? name with
  | none => exact absurd member (not_mem_of_find? found w)
  | some w' => rw [(Prod.mk.inj (distinct.entry found member rfl)).2]

private theorem Distinct.put (distinct : r.Distinct) (name : Name) (w : Wait) : (r.put name w).Distinct := by
  have names : (r.put name w).waits.map (·.1) = r.waits.map (·.1) := by
    simp only [Run.put, List.map_map]
    refine List.map_congr_left fun e _ => ?_
    by_cases here : e.1 = name <;> simp [here]
  rw [Distinct, names]
  exact distinct

private theorem Distinct.remove (distinct : r.Distinct) (name : Name) : (r.remove name).Distinct :=
  List.Nodup.sublist (List.filter_sublist.map _) distinct

theorem Distinct.perform (distinct : r.Distinct) (op : Operation Name) : (r.perform op).Distinct := by
  cases op with
  | create name timeout =>
    cases found : r.find? name with
    | some w => simpa [Run.perform, create, found] using distinct
    | none =>
      simp only [Run.perform, create, found, Option.isSome_none, Bool.false_eq_true, if_false, Distinct,
        List.map_append, List.map_cons, List.map_nil]
      refine List.nodup_append.mpr ⟨distinct, by simp, fun other member this single => ?_⟩
      obtain ⟨e, entered, rfl⟩ := List.mem_map.mp member
      rw [List.mem_singleton.mp single]
      rintro rfl
      exact not_mem_of_find? found e.2 entered
  | poll name =>
    simp only [Run.perform]
    cases found : r.find? name with
    | none => rwa [poll_absent found]
    | some w =>
      cases polled : (r.barrier.poll r.now w).2.1 with
      | pending w' =>
        rw [poll_pending found polled]
        exact distinct.put name w'
      | done result =>
        rw [poll_done found polled]
        exact distinct.remove name
  | drop name =>
    simp only [Run.perform]
    cases found : r.find? name with
    | none => rwa [drop_absent found]
    | some w =>
      rw [drop_found found]
      exact distinct.remove name
  | advance ms => exact distinct
  | abort => exact distinct
  | reset => exact distinct

theorem Distinct.run (distinct : r.Distinct) (ops : List (Operation Name)) : (r.run ops).Distinct := by
  induction ops generalizing r with
  | nil => exact distinct
  | cons op ops ih => exact ih (distinct.perform op)

/-- The unfinished waits are the one of this name and the others. -/
theorem Distinct.perm_cons (distinct : r.Distinct) (found : r.find? name = some w) :
    r.waits.Perm ((name, w) :: (r.remove name).waits) := by
  have one : r.waits.filter (·.1 = name) = [(name, w)] := by
    have nodup : r.waits.Nodup := List.Nodup.of_map _ distinct
    refine List.perm_singleton.mp ((List.perm_ext_iff_of_nodup (nodup.filter _) (by simp)).mpr fun e => ?_)
    simp only [List.mem_filter, decide_eq_true_eq, List.mem_singleton]
    constructor
    · rintro ⟨member, named⟩
      exact distinct.entry found member named
    · rintro rfl
      exact ⟨mem_of_find? found, rfl⟩
  have split := List.filter_append_perm (fun e : Name × Wait => decide (e.1 = name)) r.waits
  rw [one] at split
  refine split.symm.trans (.of_eq ?_)
  simp [Run.remove]

theorem Distinct.put_self (distinct : r.Distinct) (found : r.find? name = some w) : r.put name w = r := by
  have same : r.waits.map (fun e => if e.1 = name then (name, w) else e) = r.waits := by
    refine (List.map_congr_left fun e member => ?_).trans (List.map_id _)
    by_cases here : e.1 = name
    · rw [if_pos here]
      exact (distinct.entry found member here).symm
    · rw [if_neg here]
      rfl
  simp only [Run.put, same]

theorem find?_perform {op : Operation Name} (other : op.name? ≠ some name) :
    (r.perform op).find? name = r.find? name := by
  have different : ∀ n, op.name? = some n → name ≠ n := by
    rintro n named rfl
    exact other named
  cases op with
  | create n timeout =>
    have apart := different n rfl
    simp [perform, find?_create, apart]
  | poll n =>
    have apart := different n rfl
    simp only [perform]
    cases found : r.find? n with
    | none => rw [poll_absent found]
    | some w =>
      cases polled : (r.barrier.poll r.now w).2.1 with
      | pending w' =>
        rw [poll_pending found polled]
        exact (r.find?_put n name w').trans (if_neg apart)
      | done result =>
        rw [poll_done found polled]
        exact (r.find?_remove n name).trans (if_neg apart)
  | drop n =>
    have apart := different n rfl
    simp only [perform]
    cases found : r.find? n with
    | none => rw [drop_absent found]
    | some w =>
      rw [drop_found found]
      exact (r.find?_remove n name).trans (if_neg apart)
  | _ => rfl

/-- A run with only some of its waits. -/
def only (keep : Name → Bool) (r : Run Name) : Run Name :=
  { r with waits := r.waits.filter fun e => keep e.1 }

theorem find?_only (keep : Name → Bool) (r : Run Name) (name : Name) :
    (r.only keep).find? name = if keep name then r.find? name else none := by
  simp only [find?, only, List.find?_filter]
  cases kept : keep name with
  | true =>
    simp only [if_true]
    congr 2
    funext e
    by_cases here : e.1 = name <;> simp [here, kept]
  | false =>
    simp only [Bool.false_eq_true, if_false, Option.map_eq_none_iff, List.find?_eq_none]
    intro e _
    by_cases here : e.1 = name <;> simp [here, kept]

private theorem put_only (keep : Name → Bool) (r : Run Name) (name : Name) (w : Wait) :
    (r.only keep).put name w = (r.put name w).only keep := by
  simp only [only, put, List.filter_map]
  congr 2
  refine List.filter_congr fun e _ => ?_
  by_cases here : e.1 = name <;> simp [here]

private theorem remove_only (keep : Name → Bool) (r : Run Name) (name : Name) :
    (r.only keep).remove name = (r.remove name).only keep := by
  simp [only, remove, List.filter_filter, Bool.and_comm]

/-- An operation does to a wait that is kept what it does to it among all others. -/
theorem perform_only {keep : Name → Bool} {op : Operation Name} (kept : op.name?.all keep = true) (r : Run Name) :
    (r.only keep).perform op = (r.perform op).only keep := by
  have same : ∀ name, keep name = true → (r.only keep).find? name = r.find? name := fun name kept => by
    rw [find?_only, if_pos kept]
  cases op with
  | create name timeout =>
    have kept : keep name = true := by simpa [Operation.name?] using kept
    simp only [perform, create, same name kept]
    cases r.find? name with
    | some w => rfl
    | none => simp [only, List.filter_append, kept]
  | poll name =>
    have kept : keep name = true := by simpa [Operation.name?] using kept
    simp only [perform]
    cases found : r.find? name with
    | none => rw [poll_absent found, poll_absent ((same name kept).trans found)]
    | some w =>
      cases polled : (r.barrier.poll r.now w).2.1 with
      | pending w' =>
        rw [poll_pending found polled, poll_pending ((same name kept).trans found) polled, put_only]
        rfl
      | done result =>
        rw [poll_done found polled, poll_done ((same name kept).trans found) polled, remove_only]
        rfl
  | drop name =>
    have kept : keep name = true := by simpa [Operation.name?] using kept
    simp only [perform]
    cases found : r.find? name with
    | none => rw [drop_absent found, drop_absent ((same name kept).trans found)]
    | some w =>
      rw [drop_found found, drop_found ((same name kept).trans found), remove_only]
      rfl
  | advance ms => rfl
  | abort => rfl
  | reset => rfl

theorem remove_put (r : Run Name) (name other : Name) (w : Wait) :
    (r.put other w).remove name = (r.remove name).put other w :=
  (put_only (fun n => n ≠ name) r other w).symm

theorem remove_remove (r : Run Name) (name other : Name) :
    (r.remove other).remove name = (r.remove name).remove other :=
  (remove_only (fun n => n ≠ name) r other).symm

theorem remove_perform {op : Operation Name} (other : op.name? ≠ some name) :
    (r.perform op).remove name = (r.remove name).perform op := by
  have kept : op.name?.all (fun n => n ≠ name) = true := by
    cases named : op.name? with
    | none => rfl
    | some n =>
      rw [named] at other
      simpa using other
  exact (perform_only kept r).symm

end Run
end Lockstep.Barrier
