import Lockstep.Proofs.Server.Barriers
import Lockstep.Proofs.Session.Told

namespace Lockstep.Server

/-- What was shown fits the connections, and had its reasons. -/
structure Chronicle (s : Server) (h : List Event) : Prop where
  known : ∀ e ∈ h, e.connection < s.lines.size
  told : ∀ {i : Nat} {line : Line}, s.lines[i]? = some line → line.session.Told h i
  reasoned : Reasoned [] h
  written : ∀ {i : Nat} {line : Line}, s.lines[i]? = some line →
    line.outgoing = (h.filterMap (Event.responseTo? i)).flatMap frameOf
  admitted : ∀ {i}, .authenticated i ∈ h →
    ∃ before body after, h = before ++ .decoded i body :: .authenticated i :: after ∧
    (∀ e ∈ before, e.connection ≠ i) ∧ s.service.admits body = true
  refused : ∀ {i body}, .decoded i body ∈ h → .authenticated i ∈ h ∨ s.service.admits body = false

variable {s s' : Server} {h es : List Event}

theorem responseTo?_eq_nil {i : Nat} (others : ∀ e ∈ es, e.connection ≠ i) :
    es.filterMap (Event.responseTo? i) = [] := by
  refine List.filterMap_eq_nil_iff.mpr fun e member => ?_
  have other := others e member
  cases e with
  | sent j response about =>
    have different : j ≠ i := other
    simp [Event.responseTo?, different]
  | _ => rfl

/-- When one connection acts, what was shown of the others still fits. -/
private theorem Chronicle.of_shown {i : Nat} {line line' : Line} {sent : Option Response} (chronicle : s.Chronicle h)
    (found : s.lines[i]? = some line) (service : s'.service.admits = s.service.admits)
    (lines : s'.lines = s.lines.setIfInBounds i line')
    (outgoing : line'.outgoing = line.outgoing ++ (sent.map frameOf).getD [])
    (shown : line'.session.Shown s.service h i es sent) : s'.Chronicle (h ++ es) where
  known := fun e member => by
    rw [lines, Array.size_setIfInBounds]
    rcases List.mem_append.mp member with earlier | now
    · exact chronicle.known e earlier
    · rw [shown.about e now]
      exact (Array.getElem?_eq_some_iff.mp found).1
  told := fun {j other} there => by
    rw [lines, getElem?_set found] at there
    split at there
    · rename_i same
      cases there
      rw [same]
      exact shown.told
    · rename_i different
      exact (chronicle.told there).append fun e member => by rw [shown.about e member]; exact Ne.symm different
  reasoned := chronicle.reasoned.append shown.reasoned
  written := fun {j other} there => by
    rw [lines, getElem?_set found] at there
    rw [List.filterMap_append, List.flatMap_append]
    split at there
    · rename_i same
      cases there
      rw [same, outgoing, chronicle.written found, shown.written]
      cases sent <;> simp
    · rename_i different
      have none : es.filterMap (Event.responseTo? j) = [] :=
        responseTo?_eq_nil fun e member => by rw [shown.about e member]; exact Ne.symm different
      rw [none, chronicle.written there, List.flatMap_nil, List.append_nil]
  admitted := fun {j} member => by
    rw [service]
    rcases List.mem_append.mp member with earlier | now
    · obtain ⟨before, body, after, rfl, first, secret⟩ := chronicle.admitted earlier
      exact ⟨before, body, after ++ es, by simp, first, secret⟩
    · obtain rfl : i = j := (shown.about _ now).symm
      obtain ⟨body, after, rfl, first, secret⟩ := shown.admitted now
      exact ⟨h, body, after, rfl, first, secret⟩
  refused := fun {j body} member => by
    rw [service]
    rcases List.mem_append.mp member with earlier | now
    · exact (chronicle.refused earlier).imp_left (List.mem_append_left _)
    · obtain rfl : i = j := (shown.about _ now).symm
      exact shown.refused now

/-- Nothing was shown of a connection that is not there. -/
theorem Chronicle.unknown (chronicle : s.Chronicle h) {i : Nat} (missing : s.lines[i]? = none) :
    ∀ e ∈ h, e.connection ≠ i := by
  intro e member equal
  have outside := Array.getElem?_eq_none_iff.mp missing
  have inside := chronicle.known e member
  omega

theorem Step.chronicle (step : Step s es s') (linked : s.Linked) (chronicle : s.Chronicle h) :
    s'.Chronicle (h ++ es) := by
  cases step with
  | quiet service size lines =>
    rw [List.append_nil]
    refine ⟨fun e member => Nat.lt_of_lt_of_le (chronicle.known e member) size, fun found => ?_, chronicle.reasoned,
      fun found => ?_, by rw [service]; exact chronicle.admitted, by rw [service]; exact chronicle.refused⟩
    · rename_i i line'
      rcases lines found with ⟨line, here, phase, handles, _⟩ | ⟨here, rfl⟩
      · have told := chronicle.told here
        have same := Session.openWait?_congr phase handles
        exact ⟨fun greeting => told.greeting (phase ▸ greeting), fun serving => told.serving (phase ▸ serving),
          fun waiting => told.waiting (phase ▸ waiting), fun found => told.opened (same ▸ found)⟩
      · exact ⟨fun _ => chronicle.unknown here, by simp [Session.new], by simp [Session.new],
          by simp [Session.openWait?, Session.new]⟩
    · rename_i i line'
      rcases lines found with ⟨line, here, _, _, outgoing⟩ | ⟨here, rfl⟩
      · rw [outgoing, chronicle.written here]
      · rw [responseTo?_eq_nil (chronicle.unknown here), List.flatMap_nil]
  | @turn _ i t line m found moved service lines =>
    have shown := (Session.turn_did moved).shown (linked found) (chronicle.told found)
    exact chronicle.of_shown found (by rw [service]; rfl) lines rfl shown
  | @cut _ i line found ended service lines =>
    exact chronicle.of_shown found (by rw [service]; rfl) lines (List.append_nil _).symm
      (Session.shown_dropEvents s.service h i line.session rfl)

private theorem run_chronicle (linked : s.Linked) (chronicle : s.Chronicle h) (ops : List Operation) :
    (s.run ops).Chronicle (h ++ s.history ops) := by
  induction ops generalizing s h with
  | nil => simpa using chronicle
  | cons op ops ih =>
    have step := perform_step s op
    rw [history_cons, ← List.append_assoc]
    exact ih (step.turned linked).linked (step.chronicle linked chronicle)

theorem start_chronicle (config : ServerConfig) (secret : Secret) (address : Address) (complaint : Bytes → String)
    (ops : List Operation) :
    ((start config secret address complaint).run ops).Chronicle
      ((start config secret address complaint).history ops) := by
  have nothing : (start config secret address complaint).Chronicle [] :=
    ⟨by simp, fun found => by simp [start] at found, trivial, fun found => by simp [start] at found, by simp, by simp⟩
  simpa using run_chronicle (fun found => by simp [start] at found) nothing ops

end Lockstep.Server
