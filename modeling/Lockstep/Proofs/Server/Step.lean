import Lockstep.Proofs.Session.Bound

namespace Lockstep.Server

/-- What an operation comes to, and what it shows. -/
inductive Step (s : Server) : List Event → Server → Prop
  /-- A connection is new, or bytes arrive, or nothing happens to any connection. -/
  | quiet {s' : Server} : s'.service = s.service → s.lines.size ≤ s'.lines.size →
      (∀ {i : Nat} {line' : Line}, s'.lines[i]? = some line' →
        (∃ line, s.lines[i]? = some line ∧ line'.session.phase = line.session.phase ∧
          line'.session.handles = line.session.handles ∧ line'.outgoing = line.outgoing) ∨
        s.lines[i]? = none ∧ line' = { session := .new }) → Step s [] s'
  | turn {s' : Server} {i : Nat} {t : Session.Turn} {line : Line} {m : Session.Moved} :
      s.lines[i]? = some line → line.session.turn s.service s.now t = some m →
      s'.service = { s.service with registry := m.registry } →
      s'.lines = s.lines.setIfInBounds i ⟨m.session, line.outgoing ++ (m.sent.map frameOf).getD []⟩ →
      Step s (line.session.turnEvents s.service s.now i t m) s'
  | cut {s' : Server} {i : Nat} {line : Line} : s.lines[i]? = some line → line.session.hasEnded = false →
      s'.service = { s.service with registry := (line.session.abandon s.service.registry).1 } →
      s'.lines = s.lines.setIfInBounds i
        { line with session := { line.session with phase := .ended .closed, backlog := [] } } →
      Step s (line.session.dropEvents i) s'

variable {s s' : Server} {es : List Event}

private theorem Step.same (s : Server) : Step s [] s :=
  .quiet rfl (Nat.le_refl _) fun found => .inl ⟨_, found, rfl, rfl, rfl⟩

private theorem Step.accept (s : Server) : Step s [] (s.perform .accept) := by
  simp only [perform, Server.accept]
  split
  · refine .quiet rfl (by simp) fun {i line'} found => ?_
    simp only [Option.map_some, Option.getD_some, Array.getElem?_push] at found
    split at found
    · rename_i last
      cases found
      exact .inr ⟨by simp [last], rfl⟩
    · exact .inl ⟨line', found, rfl, rfl, rfl⟩
  · exact .same s

/-- What a peer does concerns only what can be read and written. -/
private theorem Step.modify (s : Server) (i : Nat) (f : Session → Session) (phase : ∀ c, (f c).phase = c.phase)
    (handles : ∀ c, (f c).handles = c.handles) : Step s [] (s.modifySession i f) := by
  refine .quiet rfl (by simp [modifySession]) fun {j line'} found => .inl ?_
  simp only [modifySession, Array.getElem?_modify] at found
  split at found
  · obtain ⟨line, here, rfl⟩ := Option.map_eq_some_iff.mp found
    exact ⟨line, here, phase _, handles _, rfl⟩
  · exact ⟨line', found, rfl, rfl, rfl⟩

theorem perform_step (s : Server) (op : Operation) : Step s (s.events op) (s.perform op) := by
  cases op with
  | accept => exact .accept s
  | receive i bytes => exact .modify s i (fun c => { c with inlet := c.inlet.push bytes }) (fun _ => rfl) fun _ => rfl
  | halfClose i => exact .modify s i (fun c => { c with inlet := c.inlet.close }) (fun _ => rfl) fun _ => rfl
  | close i => exact .modify s i (fun c => { c with inlet := c.inlet.close, gone := true }) (fun _ => rfl) fun _ => rfl
  | advance ms => exact .quiet rfl (Nat.le_refl _) fun found => .inl ⟨_, found, rfl, rfl, rfl⟩
  | stop => exact .quiet rfl (Nat.le_refl _) fun found => .inl ⟨_, found, rfl, rfl, rfl⟩
  | turn i t =>
    simp only [events, perform, Server.turn]
    cases found : s.lines[i]? with
    | none => exact .same s
    | some line =>
      simp only
      cases moved : line.session.turn s.service s.now t with
      | none => exact .same s
      | some m => exact .turn found moved rfl rfl
  | cut i =>
    simp only [events, perform, Server.cut]
    cases found : s.lines[i]? with
    | none => simpa using Step.same s
    | some line =>
      cases running : s.running with
      | true => exact .same s
      | false =>
        cases ended : line.session.hasEnded with
        | true =>
          have closed : line.session.openWait? = none := by
            refine Session.openWait?_eq_none fun h place w waiting => ?_
            simp [Session.hasEnded, waiting] at ended
          simpa [Session.dropEvents_of_none i closed, ended] using Step.same s
        | false =>
          simp only [ended, Bool.false_eq_true, if_false]
          exact .cut found ended rfl rfl

/-- Of what the connections share only the registry changes. -/
theorem Step.service (step : Step s es s') : s'.service = { s.service with registry := s'.service.registry } := by
  cases step with
  | quiet service => rw [service]
  | turn _ _ service => rw [service]
  | cut _ _ service => rw [service]

theorem run_service (s : Server) (ops : List Operation) :
    (s.run ops).service = { s.service with registry := (s.run ops).service.registry } := by
  induction ops generalizing s with
  | nil => rfl
  | cons op ops ih =>
    rw [run_cons, ih (s.perform op), (perform_step s op).service]

end Lockstep.Server
