import Lockstep.Proofs.Server.Chronicle
import Mathlib.Data.Nat.Count

/-!
# Without the connections that never showed the secret

A run can be carried out again without the connections that never showed the
secret: the others get lower numbers and all else is the same, at each moment,
to the last byte. So whoever does not show the secret leaves no trace.
-/
namespace Lockstep

namespace Session

variable {service : Service} {now i : Nat} {s : Session} {t : Turn} {m : Moved}

/-- A connection that has not shown the secret and does not show it now changes no barrier. -/
private theorem Did.outside (did : Did service now s t m) (unserved : s.phase ≠ .serving)
    (idle : ∀ h place w, s.phase ≠ .waiting h place w) (unshown : .authenticated i ∉ s.turnEvents service now i t m) :
    m.registry = service.registry := by
  cases did with
  | welcome greeting found admitted registry handles idle other => exact registry
  | reject greeting refused registry handles ended other => exact registry
  | begin => rfl
  | answer serving => exact absurd serving unserved
  | issue serving => exact absurd serving unserved
  | command serving => exact absurd serving unserved
  | await serving => exact absurd serving unserved
  | putAside waiting => exact absurd waiting (idle _ _ _)
  | leave waiting => exact absurd waiting (idle _ _ _)
  | pending waiting => exact absurd waiting (idle _ _ _)
  | finish waiting => exact absurd waiting (idle _ _ _)
  | stray waiting => exact absurd waiting (idle _ _ _)

end Session

namespace Server

variable {keep : Nat → Bool}

/-- The number that a connection has when only these are kept. -/
def renumber (keep : Nat → Bool) (i : Nat) : Nat :=
  Nat.count (fun j => keep j = true) i

/-- What remains of an operation when only these connections are kept and the next one has this number. -/
def Operation.erase? (keep : Nat → Bool) (next : Nat) : Operation → Option Operation
  | .accept => if keep next then some .accept else none
  | .receive i bytes => if keep i then some (.receive (renumber keep i) bytes) else none
  | .halfClose i => if keep i then some (.halfClose (renumber keep i)) else none
  | .close i => if keep i then some (.close (renumber keep i)) else none
  | .turn i t => if keep i then some (.turn (renumber keep i) t) else none
  | .cut i => if keep i then some (.cut (renumber keep i)) else none
  | .advance ms => some (.advance ms)
  | .stop => some .stop

/-- What remains of operations when only these connections are kept. -/
def erase (keep : Nat → Bool) (s : Server) : List Operation → List Operation
  | [] => []
  | op :: ops => (op.erase? keep s.lines.size).toList ++ erase keep (s.perform op) ops

private theorem erase_append (keep : Nat → Bool) (s : Server) (before after : List Operation) :
    erase keep s (before ++ after) = erase keep s before ++ erase keep (s.run before) after := by
  induction before generalizing s with
  | nil => rfl
  | cons op before ih => simp [erase, ih, List.append_assoc]

/-- The servers differ in their connections at most. -/
structure Alike (s s' : Server) : Prop where
  service : s'.service = s.service
  address : s'.address = s.address
  now : s'.now = s.now
  running : s'.running = s.running

private theorem Alike.refl (s : Server) : Alike s s :=
  ⟨rfl, rfl, rfl, rfl⟩

/-- The second server is the first one without the connections that are not kept. -/
structure Erased (keep : Nat → Bool) (s s' : Server) : Prop where
  alike : Alike s s'
  size : s'.lines.size = renumber keep s.lines.size
  lines : ∀ i, keep i = true → s'.lines[renumber keep i]? = s.lines[i]?

private theorem renumber_inj {i j : Nat} (kept : keep i = true) (kept' : keep j = true) :
    renumber keep i = renumber keep j ↔ i = j :=
  ⟨Nat.count_injective kept kept', fun same => by rw [same]⟩

section
variable {s s' t t' : Server} {i : Nat} {line : Option Line} {h : List Event}

/-- What happens to a connection that is kept happens in both. -/
private theorem Erased.both (erased : Erased keep s s') (kept : keep i = true) (alike : Alike t t')
    (size : t.lines.size = s.lines.size) (size' : t'.lines.size = s'.lines.size)
    (lines : ∀ j, t.lines[j]? = if j = i then line else s.lines[j]?)
    (lines' : ∀ j, t'.lines[j]? = if j = renumber keep i then line else s'.lines[j]?) : Erased keep t t' where
  alike := alike
  size := by rw [size', size, erased.size]
  lines := fun j kept' => by
    rw [lines, lines', erased.lines j kept']
    by_cases same : j = i
    · subst same
      simp
    · simp [same, renumber_inj kept' kept]

/-- What happens to a connection that is not kept, and to nothing else, is erased. -/
private theorem Erased.one (erased : Erased keep s s') (deleted : keep i = false) (alike : Alike t s')
    (size : t.lines.size = s.lines.size) (lines : ∀ j, t.lines[j]? = if j = i then line else s.lines[j]?) :
    Erased keep t s' where
  alike := alike
  size := by rw [size, erased.size]
  lines := fun j kept => by
    have different : j ≠ i := by
      rintro rfl
      rw [deleted] at kept
      cases kept
    rw [lines, if_neg different, erased.lines j kept]

/-- What a peer does is done in both, or erased. -/
private theorem Erased.modify (erased : Erased keep s s') (i : Nat) (f : Session → Session) :
    Erased keep (s.modifySession i f) (if keep i then s'.modifySession (renumber keep i) f else s') := by
  obtain ⟨service, address, now, running⟩ := erased.alike
  cases kept : keep i with
  | true =>
    refine erased.both kept ⟨service, address, now, running⟩ (by simp [modifySession]) (by simp [modifySession])
      (s.getElem?_modifySession i f) fun j => ?_
    rw [if_pos rfl, getElem?_modifySession, erased.lines i kept]
  | false =>
    exact erased.one kept ⟨service, address, now, running⟩ (by simp [modifySession]) (s.getElem?_modifySession i f)

/-- A connection that is kept is accepted in both. -/
private theorem Erased.accept (erased : Erased keep s s') :
    Erased keep (s.perform .accept) (if keep s.lines.size then s'.perform .accept else s') := by
  obtain ⟨⟨service, address, now, running⟩, size, lines⟩ := erased
  cases going : s.running with
  | false =>
    have still : s.perform .accept = s := by simp [perform, Server.accept, going]
    have still' : s'.perform .accept = s' := by simp [perform, Server.accept, running, going]
    rw [still, still', ite_self]
    exact ⟨⟨service, address, now, running⟩, size, lines⟩
  | true =>
    have count : renumber keep (s.lines.size + 1) = renumber keep s.lines.size + if keep s.lines.size then 1 else 0 :=
      Nat.count_succ _ _
    rw [perform_accept going, perform_accept (running.trans going)]
    cases kept : keep s.lines.size with
    | true =>
      refine ⟨⟨service, address, now, running⟩, ?_, fun j kept' => ?_⟩
      · simp only [if_true, Array.size_push, count, kept, size]
      · simp only [if_true, Array.getElem?_push, size, lines j kept', service, now]
        by_cases last : j = s.lines.size
        · simp [last]
        · simp [last, renumber_inj kept' kept]
    | false =>
      refine ⟨⟨service, address, now, running⟩, ?_, fun j kept' => ?_⟩
      · simpa [count, kept] using size
      · have different : j ≠ s.lines.size := by
          rintro rfl
          rw [kept] at kept'
          cases kept'
        simpa [Array.getElem?_push, different] using lines j kept'

/-- A connection that is kept takes its turn in both; one that is not kept does nothing to the others. -/
private theorem Erased.turn (erased : Erased keep s s') (chronicle : s.Chronicle h) (i : Nat) (t : Session.Turn)
    (shown : ∀ j, .authenticated j ∈ h ++ s.events (.turn i t) → keep j = true) :
    Erased keep (s.perform (.turn i t)) (if keep i then s'.perform (.turn (renumber keep i) t) else s') := by
  obtain ⟨service, address, now, running⟩ := erased.alike
  simp only [perform, Server.turn]
  cases kept : keep i with
  | true =>
    simp only [if_true, erased.lines i kept, service, now]
    cases found : s.lines[i]? with
    | none => exact erased
    | some line =>
      have found' := (erased.lines i kept).trans found
      simp only
      cases moved : line.session.turn s.service s.now t with
      | none => exact erased
      | some m =>
        exact erased.both kept ⟨rfl, address, rfl, running⟩ (by simp) (by simp) (getElem?_set found)
          (getElem?_set found')
  | false =>
    cases found : s.lines[i]? with
    | none => exact erased
    | some line =>
      simp only
      cases moved : line.session.turn s.service s.now t with
      | none => exact erased
      | some m =>
        have told := chronicle.told found
        have absent : ∀ e, .authenticated i ∈ h ++ e → e = s.events (.turn i t) → False := by
          rintro e member rfl
          rw [shown i member] at kept
          cases kept
        have unserved : line.session.phase ≠ .serving := fun serving =>
          absent _ (List.mem_append_left _ (told.serving serving)) rfl
        have idle : ∀ handle place w, line.session.phase ≠ .waiting handle place w := fun handle place w waiting =>
          absent _ (List.mem_append_left _ (told.waiting waiting)) rfl
        have registry := (Session.turn_did moved).outside (i := i) unserved idle fun member =>
          absent _ (List.mem_append_right _ member) (by simp [events, found, moved])
        refine erased.one kept ⟨?_, address, now, running⟩ (by simp) (getElem?_set found)
        rw [service]
        simp [registry]

private theorem Erased.cut (erased : Erased keep s s') (chronicle : s.Chronicle h) (i : Nat)
    (shown : ∀ j, .authenticated j ∈ h → keep j = true) :
    Erased keep (s.perform (.cut i)) (if keep i then s'.perform (.cut (renumber keep i)) else s') := by
  obtain ⟨service, address, now, running⟩ := erased.alike
  simp only [perform, running]
  cases going : s.running with
  | true => simpa using erased
  | false =>
    simp only [Bool.false_eq_true, if_false, Server.cut]
    cases kept : keep i with
    | true =>
      simp only [if_true, erased.lines i kept]
      cases found : s.lines[i]? with
      | none => exact erased
      | some line =>
        have found' := (erased.lines i kept).trans found
        simp only
        split
        · exact erased
        · exact erased.both kept ⟨by simp [service], address, now, running⟩ (by simp) (by simp) (getElem?_set found)
            (by rw [service]; exact getElem?_set found')
    | false =>
      cases found : s.lines[i]? with
      | none => exact erased
      | some line =>
        simp only
        split
        · exact erased
        · have told := chronicle.told found
          have idle : ∀ handle place w, line.session.phase ≠ .waiting handle place w := by
            intro handle place w waiting
            rw [shown i (told.waiting waiting)] at kept
            cases kept
          refine erased.one kept ⟨?_, address, now, running⟩ (by simp) (getElem?_set found)
          rw [service]
          simp [Session.cut, Session.abandon_of_idle _ idle]

/-- Every operation is carried out in both, or erased. -/
private theorem Erased.step (erased : Erased keep s s') (chronicle : s.Chronicle h) (op : Operation)
    (shown : ∀ j, .authenticated j ∈ h ++ s.events op → keep j = true) :
    Erased keep (s.perform op) (s'.run (op.erase? keep s.lines.size).toList) := by
  have optional : ∀ (b : Bool) op',
      s'.run (if b then some op' else none).toList = if b then s'.perform op' else s' := by
    intro b op'
    cases b <;> rfl
  obtain ⟨service, address, now, running⟩ := erased.alike
  cases op with
  | accept =>
    rw [Operation.erase?, optional]
    exact erased.accept
  | receive i bytes =>
    rw [Operation.erase?, optional]
    exact erased.modify i fun c => { c with inlet := c.inlet.push bytes }
  | halfClose i =>
    rw [Operation.erase?, optional]
    exact erased.modify i fun c => { c with inlet := c.inlet.close }
  | close i =>
    rw [Operation.erase?, optional]
    exact erased.modify i fun c => { c with inlet := c.inlet.close, gone := true }
  | turn i t =>
    rw [Operation.erase?, optional]
    exact erased.turn chronicle i t shown
  | cut i =>
    rw [Operation.erase?, optional]
    exact erased.cut chronicle i fun j member => shown j (List.mem_append_left _ member)
  | advance ms =>
    have later : (s'.perform (.advance ms)).now = (s.perform (.advance ms)).now := by
      simp [perform, Server.advance, now]
    exact ⟨⟨service, address, later, running⟩, erased.size, erased.lines⟩
  | stop => exact ⟨⟨service, address, now, rfl⟩, erased.size, erased.lines⟩

theorem Erased.run (erased : Erased keep s s') (linked : s.Linked) (chronicle : s.Chronicle h) (ops : List Operation)
    (shown : ∀ j, .authenticated j ∈ h ++ s.history ops → keep j = true) :
    Erased keep (s.run ops) (s'.run (erase keep s ops)) := by
  induction ops generalizing s s' h with
  | nil => exact erased
  | cons op ops ih =>
    have step := perform_step s op
    rw [erase, run_append]
    rw [history_cons, ← List.append_assoc] at shown
    exact ih (erased.step chronicle op fun j member => shown j (List.mem_append_left _ member))
      (step.turned linked).linked (step.chronicle linked chronicle) shown

end

/-- A connection that never showed the secret: no request of it is dispatched, and it had one frame decoded at most,
    which was its first and did not show the secret. -/
structure Outside (service : Service) (h : List Event) (i : Nat) : Prop where
  undispatched : ∀ request, .dispatched i request ∉ h
  refused : ∀ before body after, h = before ++ .decoded i body :: after →
    (∀ e ∈ before, e.connection ≠ i) ∧ service.admits body = false ∧ ∀ body', .decoded i body' ∉ after

private theorem Chronicle.outside {s : Server} {h : List Event} (chronicle : s.Chronicle h) {i : Nat}
    (unshown : .authenticated i ∉ h) : Outside s.service h i where
  undispatched := fun request member => by
    obtain ⟨before, after, rfl⟩ := List.append_of_mem member
    have shown : .authenticated i ∈ [] ++ before := chronicle.reasoned.reason
    exact unshown (by simpa using .inl shown)
  refused := fun before body after split => by
    have reasoned := chronicle.reasoned
    rw [split] at reasoned
    -- Whatever frame is decoded, nothing was shown of the connection before.
    have first : ∀ before body after, h = before ++ .decoded i body :: after → ∀ e ∈ before, e.connection ≠ i := by
      rintro before body after rfl
      rcases chronicle.reasoned.reason with shown | silent
      · exact absurd (by simpa using .inl shown) unshown
      · simpa using silent
    refine ⟨first before body after split, ?_, fun body' again => ?_⟩
    · have decoded : .decoded i body ∈ h := by simp [split]
      rcases chronicle.refused decoded with shown | refused
      · exact absurd shown unshown
      · exact refused
    · obtain ⟨between, rest, rfl⟩ := List.append_of_mem again
      have later := first (before ++ .decoded i body :: between) body' rest (by simp [split])
      exact later (.decoded i body) (by simp) rfl

/-- At every moment of a run, without the connections that never show the secret the server is the same: the registry
    and all barriers in it, the clock, and each other connection with all bytes written to it. Who is kept showed the
    secret with its first frame; of the others no request is dispatched and nothing after the first frame is decoded. -/
theorem unauthenticated_erased (config : ServerConfig) (secret : Secret) (address : Address)
    (complaint : Bytes → String) (before after : List Operation) :
    let fresh := start config secret address complaint
    let h := fresh.history (before ++ after)
    let keep := fun i => decide (.authenticated i ∈ h)
    Erased keep (fresh.run before) (fresh.run (erase keep fresh before)) ∧
      erase keep fresh (before ++ after) = erase keep fresh before ++ erase keep (fresh.run before) after ∧
      (∀ i, .authenticated i ∈ h → ∃ earlier body later, h = earlier ++ .decoded i body :: .authenticated i :: later ∧
        (∀ e ∈ earlier, e.connection ≠ i) ∧ fresh.service.admits body = true) ∧
      ∀ i, .authenticated i ∉ h → Outside fresh.service h i := by
  intro fresh h keep
  have chronicle := start_chronicle config secret address complaint (before ++ after)
  have service : (fresh.run (before ++ after)).service.admits = fresh.service.admits := by
    rw [run_service]
    rfl
  have nothing : Erased keep fresh fresh :=
    ⟨.refl _, by simp [fresh, start, renumber], fun i _ => by simp [fresh, start]⟩
  refine ⟨?_, erase_append keep fresh before after, ?_, ?_⟩
  · refine nothing.run (h := []) (fun found => by simp [fresh, start] at found)
      (start_chronicle config secret address complaint []) before fun j member => ?_
    simp only [keep, decide_eq_true_eq, h, history_append]
    exact List.mem_append_left _ member
  · intro i member
    rw [← service]
    exact chronicle.admitted member
  · intro i unshown
    obtain ⟨undispatched, refused⟩ := chronicle.outside unshown
    rw [service] at refused
    exact ⟨undispatched, refused⟩

end Server
end Lockstep
