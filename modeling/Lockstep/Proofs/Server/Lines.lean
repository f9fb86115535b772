import Lockstep.Proofs.Server.Chronicle
import Lockstep.Proofs.Session.Answers

namespace Lockstep.Server

variable {s : Server} {i : Nat} {line : Line}

/-- What an operation comes to for a connection that is there. -/
inductive LineStep (s : Server) (i : Nat) (line : Line) : Operation → Line → Prop
  | same {op : Operation} : (∀ e ∈ s.events op, e.connection ≠ i) → (∀ bytes, op ≠ .receive i bytes) →
      LineStep s i line op line
  | received (bytes : Bytes) : LineStep s i line (.receive i bytes)
      { line with session := { line.session with inlet := line.session.inlet.push bytes } }
  /-- The peer closes its end. -/
  | closed {op : Operation} (gone : Bool) : (op = .halfClose i ∨ op = .close i) → LineStep s i line op
      { line with session := { line.session with inlet := line.session.inlet.close, gone } }
  | turned {t : Session.Turn} {m : Session.Moved} : line.session.turn s.service s.now t = some m →
      LineStep s i line (.turn i t) ⟨m.session, line.outgoing ++ (m.sent.map frameOf).getD []⟩
  | cut : line.session.hasEnded = false → LineStep s i line (.cut i)
      { line with session := { line.session with phase := .ended .closed, backlog := [] } }

private theorem connection_events (s : Server) {op : Operation} {j : Nat}
    (acts : (∃ t, op = .turn j t) ∨ op = .cut j) : ∀ e ∈ s.events op, e.connection = j := by
  intro e member
  rcases acts with ⟨t, rfl⟩ | rfl
  · simp only [events] at member
    split at member
    · split at member
      · exact Session.connection_turnEvents e member
      · cases member
    · cases member
  · simp only [events] at member
    split at member
    · split at member
      · cases member
      · exact Session.connection_dropEvents j _ e member
    · cases member

/-- Cutting a connection off shows at most that its wait is given up. -/
theorem events_cut (s : Server) (i : Nat) : ∀ e ∈ s.events (.cut i), ∃ key b, e = .barrier key b := by
  intro e member
  simp only [events] at member
  split at member
  · split at member
    · cases member
    · unfold Session.dropEvents at member
      split at member
      · obtain ⟨b, _, rfl⟩ := List.mem_map.mp member
        exact ⟨_, b, rfl⟩
      · cases member
  · cases member

/-- One connection acts: it is left like this, and so are the barriers, and this is counted. -/
structure Acted (s : Server) (i : Nat) (line' : Line) (r : Registry) (added : Meter) (s' : Server) : Prop where
  lines : s'.lines = s.lines.setIfInBounds i line'
  service : s'.service = { s.service with registry := r }
  meter : s'.meter = s.meter + added
  now : s'.now = s.now
  running : s'.running = s.running

section
variable {s' : Server} {line' : Line} {r : Registry} {added : Meter}

theorem Acted.registry (acted : s.Acted i line' r added s') : s'.service.registry = r := by
  rw [acted.service]

theorem Acted.size (acted : s.Acted i line' r added s') : s'.lines.size = s.lines.size := by
  rw [acted.lines, Array.size_setIfInBounds]

theorem Acted.here (acted : s.Acted i line' r added s') (found : s.lines[i]? = some line) :
    s'.lines[i]? = some line' := by
  rw [acted.lines, getElem?_set found, if_pos rfl]

theorem Acted.elsewhere (acted : s.Acted i line' r added s') (found : s.lines[i]? = some line) {j : Nat}
    (other : j ≠ i) : s'.lines[j]? = s.lines[j]? := by
  rw [acted.lines, getElem?_set found, if_neg other]

end

theorem acted_of_turn (found : s.lines[i]? = some line) {t : Session.Turn} {m : Session.Moved}
    (moved : line.session.turn s.service s.now t = some m) :
    s.Acted i ⟨m.session, line.outgoing ++ (m.sent.map frameOf).getD []⟩ m.registry m.meter
      (s.perform (.turn i t)) := by
  simp only [perform, Server.turn, found, moved, Option.getD_some]
  exact ⟨rfl, rfl, rfl, rfl, rfl⟩

/-- A turn that nobody can take changes nothing. -/
theorem perform_turn_of_none {t : Session.Turn}
    (nothing : ∀ line, s.lines[i]? = some line → line.session.turn s.service s.now t = none) :
    s.perform (.turn i t) = s := by
  cases found : s.lines[i]? with
  | none => simp [perform, Server.turn, found]
  | some line => simp [perform, Server.turn, found, nothing line found]

theorem acted_of_cut (stopped : s.running = false) (found : s.lines[i]? = some line)
    (live : line.session.hasEnded = false) :
    s.Acted i { line with session := { line.session with phase := .ended .closed, backlog := [] } }
      (line.session.abandon s.service.registry).1 (line.session.abandon s.service.registry).2 (s.perform (.cut i)) := by
  simp only [perform, stopped, Server.cut, found, live, Bool.false_eq_true, if_false]
  exact ⟨rfl, rfl, rfl, rfl, stopped.symm⟩

/-- Connections are not cut off before a shutdown was requested, and not after they have ended. -/
theorem perform_cut_of_none
    (nothing : s.running = true ∨ ∀ line, s.lines[i]? = some line → line.session.hasEnded = true) :
    s.perform (.cut i) = s := by
  cases running : s.running with
  | true => simp [perform, running]
  | false =>
    have ended := nothing.resolve_left (by simp [running])
    cases found : s.lines[i]? with
    | none => simp [perform, running, Server.cut, found]
    | some line => simp [perform, running, Server.cut, found, ended line found]

/-- What is logged of a connection whose session is left like this. -/
def logged (i : Nat) (session : Session) : List (Nat × Session.Ending) :=
  match session.phase with
  | .ended how => [(i, how)]
  | _ => []

theorem mem_logged {session : Session} {j : Nat} {how : Session.Ending} :
    (j, how) ∈ logged i session ↔ j = i ∧ session.phase = .ended how := by
  unfold logged
  cases session.phase with
  | ended how' => simp [eq_comm]
  | _ => simp

theorem log_of_turn (found : s.lines[i]? = some line) {t : Session.Turn} {m : Session.Moved}
    (moved : line.session.turn s.service s.now t = some m) :
    (s.perform (.turn i t)).log = s.log ++ logged i m.session := by
  simp only [perform, Server.turn, found, moved, Option.getD_some, logged]
  cases m.session.phase with
  | ended how => rfl
  | _ => exact (List.append_nil s.log).symm

/-- Whoever is cut off is not logged. -/
theorem log_of_cut (s : Server) (i : Nat) : (s.perform (.cut i)).log = s.log := by
  simp only [perform, Server.cut]
  split
  · rfl
  · split
    · rfl
    · split <;> rfl

/-- A connection acts, or its turn or its end is nothing. -/
private theorem acted_or_same (s : Server) {op : Operation} {j : Nat} (acts : (∃ t, op = .turn j t) ∨ op = .cut j) :
    s.perform op = s ∨ ∃ line line' r added, s.lines[j]? = some line ∧ s.Acted j line' r added (s.perform op) := by
  cases found : s.lines[j]? with
  | none =>
    left
    rcases acts with ⟨t, rfl⟩ | rfl
    · exact perform_turn_of_none (by simp [found])
    · exact perform_cut_of_none (.inr (by simp [found]))
  | some line =>
    rcases acts with ⟨t, rfl⟩ | rfl
    · cases moved : line.session.turn s.service s.now t with
      | none => exact .inl (perform_turn_of_none (by simpa [found] using moved))
      | some m => exact .inr ⟨line, _, _, _, rfl, acted_of_turn found moved⟩
    · by_cases going : s.running = false ∧ line.session.hasEnded = false
      · exact .inr ⟨line, _, _, _, rfl, acted_of_cut going.1 found going.2⟩
      · refine .inl (perform_cut_of_none ?_)
        simp only [not_and, Bool.not_eq_false] at going
        cases running : s.running with
        | true => exact .inl rfl
        | false => exact .inr (by simpa [found] using going running)

/-- What a connection does leaves the others, the clock and the acceptance of connections as they were. -/
theorem perform_elsewhere (s : Server) {op : Operation} {j : Nat} (acts : (∃ t, op = .turn j t) ∨ op = .cut j) :
    (s.perform op).service.config = s.service.config ∧ (s.perform op).now = s.now ∧
      (s.perform op).running = s.running ∧ (s.perform op).lines.size = s.lines.size ∧
      ∀ i, i ≠ j → (s.perform op).lines[i]? = s.lines[i]? := by
  rcases s.acted_or_same acts with same | ⟨line, line', r, added, found, acted⟩
  · rw [same]
    exact ⟨rfl, rfl, rfl, rfl, fun _ _ => rfl⟩
  · exact ⟨by rw [acted.service], acted.now, acted.running, acted.size, fun i other => acted.elsewhere found other⟩

/-- An operation on another connection. -/
private theorem LineStep.elsewhere {op : Operation} {j : Nat} (acts : (∃ t, op = .turn j t) ∨ op = .cut j)
    (other : j ≠ i) : LineStep s i line op line := by
  refine .same (fun e member => ?_) fun bytes => ?_
  · rw [s.connection_events acts e member]
    exact other
  · rcases acts with ⟨t, rfl⟩ | rfl <;> exact Operation.noConfusion

/-- What a peer does reaches its own connection only. -/
private theorem line_modify (found : s.lines[i]? = some line) {op : Operation} (j : Nat) (f : Session → Session)
    (silent : s.events op = []) (here : j = i → LineStep s i line op { line with session := f line.session })
    (elsewhere : j ≠ i → ∀ bytes, op ≠ .receive i bytes) :
    ∃ line', (s.modifySession j f).lines[i]? = some line' ∧ LineStep s i line op line' := by
  rw [getElem?_modifySession]
  by_cases same : i = j
  · subst same
    exact ⟨_, by rw [if_pos rfl, found, Option.map_some], here rfl⟩
  · rw [if_neg same]
    exact ⟨line, found, .same (by simp [silent]) (elsewhere (Ne.symm same))⟩

theorem line_step (found : s.lines[i]? = some line) (op : Operation) :
    ∃ line', (s.perform op).lines[i]? = some line' ∧ LineStep s i line op line' := by
  have elsewhere : ∀ {j}, ((∃ t, op = .turn j t) ∨ op = .cut j) → i ≠ j → (s.perform op).lines[i]? = some line := by
    intro j acts other
    rw [(s.perform_elsewhere acts).2.2.2.2 i other, found]
  cases op with
  | accept =>
    refine ⟨line, ?_, .same (by simp [events]) (by simp)⟩
    simp only [perform, Server.accept]
    split
    · have inside := (Array.getElem?_eq_some_iff.mp found).1
      simp [Array.getElem?_push, found, Nat.ne_of_lt inside]
    · exact found
  | receive j bytes =>
    refine line_modify found j _ rfl (fun same => ?_) fun other bytes' same => ?_
    · subst same
      exact .received bytes
    · cases same
      exact other rfl
  | halfClose j =>
    refine line_modify found j _ rfl (fun same => ?_) (by simp)
    subst same
    exact .closed line.session.gone (.inl rfl)
  | close j =>
    refine line_modify found j _ rfl (fun same => ?_) (by simp)
    subst same
    exact .closed true (.inr rfl)
  | advance ms => exact ⟨line, found, .same (by simp [events]) (by simp)⟩
  | stop => exact ⟨line, found, .same (by simp [events]) (by simp)⟩
  | turn j t =>
    by_cases same : i = j
    · subst same
      cases moved : line.session.turn s.service s.now t with
      | none =>
        have still : s.perform (.turn i t) = s := perform_turn_of_none (by simpa [found] using moved)
        exact ⟨line, by rwa [still], .same (by simp [events, found, moved]) (by simp)⟩
      | some m => exact ⟨_, (acted_of_turn found moved).here found, .turned moved⟩
    · exact ⟨line, elsewhere (.inl ⟨t, rfl⟩) same, .elsewhere (.inl ⟨t, rfl⟩) (Ne.symm same)⟩
  | cut j =>
    by_cases same : i = j
    · subst same
      cases running : s.running with
      | true =>
        have still : s.perform (.cut i) = s := perform_cut_of_none (.inl running)
        exact ⟨line, by rwa [still], .same (by simp [events, found, running]) (by simp)⟩
      | false =>
        cases ended : line.session.hasEnded with
        | true =>
          have closed : line.session.openWait? = none := by
            refine Session.openWait?_eq_none fun h place w waiting => ?_
            simp [Session.hasEnded, waiting] at ended
          have still : s.perform (.cut i) = s := perform_cut_of_none (.inr (by simpa [found] using ended))
          refine ⟨line, by rwa [still], .same ?_ (by simp)⟩
          simp [events, found, Session.dropEvents_of_none i closed]
        | false => exact ⟨_, (acted_of_cut running found ended).here found, .cut ended⟩
    · exact ⟨line, elsewhere (.inr rfl) same, .elsewhere (.inr rfl) (Ne.symm same)⟩

/-- Nothing is shown of a connection that is not there. -/
theorem events_absent (absent : s.lines[i]? = none) (op : Operation) : ∀ e ∈ s.events op, e.connection ≠ i := by
  have acting : ∀ j, ((∃ t, op = .turn j t) ∨ op = .cut j) → ∀ e ∈ s.events op, e.connection ≠ i := by
    rintro j acts e member rfl
    obtain rfl := s.connection_events acts e member
    rcases acts with ⟨t, rfl⟩ | rfl
    · simp [events, absent] at member
    · simp [events, absent] at member
  cases op with
  | turn j t => exact acting j (.inl ⟨t, rfl⟩)
  | cut j => exact acting j (.inr rfl)
  | _ => simp [events]

/-- A connection that was not there is new. -/
theorem line_new {line' : Line} (absent : s.lines[i]? = none) (op : Operation)
    (there : (s.perform op).lines[i]? = some line') : line' = { session := .new } := by
  have step := perform_step s op
  generalize s.events op = es at step
  generalize s.perform op = s' at step there
  cases step with
  | quiet _ _ lines =>
    rcases lines there with ⟨line, here, _⟩ | ⟨_, new⟩
    · rw [absent] at here
      cases here
    · exact new
  | turn found _ _ lines =>
    rw [lines, getElem?_set found] at there
    split at there
    · rename_i same
      rw [same, found] at absent
      cases absent
    · rw [absent] at there
      cases there
  | cut found _ _ lines =>
    rw [lines, getElem?_set found] at there
    split at there
    · rename_i same
      rw [same, found] at absent
      cases absent
    · rw [absent] at there
      cases there

end Lockstep.Server
