import Lockstep.Proofs.Server.Requests
import Lockstep.Proofs.Session.Endings

/-!
# Failed handshakes reveal nothing

Two servers that differ in their secrets alone treat a connection that shows
neither of them alike: they write the same bytes to it, end it at the same
moment and for the same reason, and count the same. Whatever happens, at most
one rejection is written before a welcome, and it is always the same.
-/
namespace Lockstep

namespace Session

variable {service service' : Service} {now : Nat} {s : Session}

/-- What a turn comes to apart from the barriers. -/
def Moved.outward (m : Moved) : Session × Option Response × Meter :=
  (m.session, m.sent, m.meter)

private theorem outward_finish (idle : ∀ h place w, s.phase ≠ .waiting h place w) (r r' : Registry) (how : Ending) :
    (s.finish r how).outward = (s.finish r' how).outward := by
  simp [finish, Moved.outward, abandon_of_idle r idle, abandon_of_idle r' idle]

private theorem outward_reject (idle : ∀ h place w, s.phase ≠ .waiting h place w) (r r' : Registry) (why : Rejection) :
    (s.reject r why).outward = (s.reject r' why).outward := by
  simp [reject, finish, Moved.outward, abandon_of_idle r idle, abandon_of_idle r' idle]

/-- A first frame that shows neither secret is rejected for the same reason. -/
private theorem outward_greet (idle : ∀ h place w, s.phase ≠ .waiting h place w) {body : Bytes}
    (refused : service.admits body = false) (refused' : service'.admits body = false) :
    (s.greet service body).outward = (s.greet service' body).outward := by
  unfold greet
  cases decoded : Request.decode? body with
  | none => exact outward_reject idle _ _ _
  | some request =>
    cases request with
    | hello secret =>
      have wrong : service.secret.verify secret = false := by simpa [Service.admits, decoded] using refused
      have wrong' : service'.secret.verify secret = false := by simpa [Service.admits, decoded] using refused'
      simp only [wrong, wrong', Bool.false_eq_true, if_false]
      exact outward_reject idle _ _ _
    | _ => exact outward_reject idle _ _ _

/-- Until the secret is shown a turn depends on it only if it shows it. -/
private theorem outward_turn (config : service'.config = service.config) {deadline : Option Nat}
    (greeting : s.phase = .greeting deadline) {t : Turn} (refused : t = .input → ∀ body, s.frame? = some body →
      service.admits body = false ∧ service'.admits body = false) :
    (s.turn service now t).map Moved.outward = (s.turn service' now t).map Moved.outward := by
  have idle : ∀ (inlet : Frame.Inlet) h place w, ({ s with inlet } : Session).phase ≠ .waiting h place w := by
    simp [greeting]
  cases t with
  | look =>
    cases deadline with
    | none => simp [turn, look, greeting, begin, Moved.outward, config]
    | some deadline =>
      simp only [turn, look, greeting, config]
      split
      · exact congrArg some (outward_reject (by simp) _ _ _)
      · rfl
  | input =>
    simp only [turn, takeInput, greeting, takeItem]
    cases item : s.inlet.next.1 with
    | pending => rfl
    | failed failure => exact congrArg some (outward_reject (by simp) _ _ _)
    | finished => exact congrArg some (outward_finish (by simp) _ _ _)
    | frame body =>
      obtain ⟨wrong, wrong'⟩ := refused rfl body (by simp [frame?, greeting, item])
      exact congrArg some (outward_greet (by simp) wrong wrong')

end Session

namespace Server

variable {i : Nat} {s s' : Server} {h h' : List Event} {op : Operation} {line : Line}

/-- The operation is a turn or the end of another connection. -/
def Operation.Elsewhere (i : Nat) : Operation → Prop
  | .turn j _ | .cut j => j ≠ i
  | _ => False

/-- The two servers do not differ to this connection. -/
structure Indistinct (i : Nat) (s s' : Server) : Prop where
  config : s'.service.config = s.service.config
  now : s'.now = s.now
  running : s'.running = s.running
  size : s'.lines.size = s.lines.size
  line : s'.lines[i]? = s.lines[i]?

/-- The operation counts the same in both servers, and logs the same. -/
def CountsAlike (s s' : Server) (op : Operation) : Prop :=
  ∃ meter ends, (s.perform op).meter = s.meter + meter ∧ (s'.perform op).meter = s'.meter + meter ∧
    (s.perform op).log = s.log ++ ends ∧ (s'.perform op).log = s'.log ++ ends

private theorem CountsAlike.nothing (meter : (s.perform op).meter = s.meter) (meter' : (s'.perform op).meter = s'.meter)
    (log : (s.perform op).log = s.log) (log' : (s'.perform op).log = s'.log) : CountsAlike s s' op :=
  ⟨{}, [], by rw [meter, Meter.add_empty], by rw [meter', Meter.add_empty], by rw [log, List.append_nil],
    by rw [log', List.append_nil]⟩

/-- The operation does nothing in either server. -/
private theorem Indistinct.still (indistinct : Indistinct i s s') (here : s.perform op = s)
    (there : s'.perform op = s') : Indistinct i (s.perform op) (s'.perform op) ∧ CountsAlike s s' op := by
  refine ⟨by rwa [here, there], .nothing ?_ ?_ ?_ ?_⟩
  · rw [here]
  · rw [there]
  · rw [here]
  · rw [there]

/-- What a peer does is the same in both servers. -/
private theorem Indistinct.modify (indistinct : Indistinct i s s') (j : Nat) (f : Session → Session) :
    Indistinct i (s.modifySession j f) (s'.modifySession j f) := by
  obtain ⟨config, now, running, size, line⟩ := indistinct
  refine ⟨config, now, running, by simpa [modifySession] using size, ?_⟩
  rw [getElem?_modifySession, getElem?_modifySession]
  by_cases same : i = j
  · subst same
    rw [if_pos rfl, if_pos rfl, line]
  · rw [if_neg same, if_neg same, line]

/-- What another connection does is not seen. -/
private theorem Indistinct.elsewhere (indistinct : Indistinct i s s') {j : Nat}
    (acts : (∃ t, op = .turn j t) ∨ op = .cut j) (other : i ≠ j) : Indistinct i (s.perform op) (s'.perform op) := by
  obtain ⟨config, now, running, size, lines⟩ := s.perform_elsewhere acts
  obtain ⟨config', now', running', size', lines'⟩ := s'.perform_elsewhere acts
  refine ⟨?_, ?_, ?_, ?_, ?_⟩
  · rw [config, config', indistinct.config]
  · rw [now, now', indistinct.now]
  · rw [running, running', indistinct.running]
  · rw [size, size', indistinct.size]
  · rw [lines i other, lines' i other, indistinct.line]

/-- Both servers do the same to the connection. -/
private theorem Indistinct.acted (indistinct : Indistinct i s s') (found : s.lines[i]? = some line) {line' : Line}
    {r r' : Registry} {added added' : Meter} {t t' : Server} (acted : s.Acted i line' r added t)
    (acted' : s'.Acted i line' r' added' t') : Indistinct i t t' where
  config := by
    rw [acted.service, acted'.service]
    exact indistinct.config
  now := by rw [acted.now, acted'.now, indistinct.now]
  running := by rw [acted.running, acted'.running, indistinct.running]
  size := by rw [acted.size, acted'.size, indistinct.size]
  line := by rw [acted.here found, acted'.here (indistinct.line.trans found)]

/-- A turn that comes to the same in both servers. -/
private theorem Indistinct.turn (indistinct : Indistinct i s s') {t : Session.Turn}
    (same : ∀ line, s.lines[i]? = some line → (line.session.turn s.service s.now t).map Session.Moved.outward =
      (line.session.turn s'.service s'.now t).map Session.Moved.outward) :
    Indistinct i (s.perform (.turn i t)) (s'.perform (.turn i t)) ∧ CountsAlike s s' (.turn i t) := by
  cases found : s.lines[i]? with
  | none =>
    have found' := indistinct.line.trans found
    exact indistinct.still (perform_turn_of_none (by simp [found])) (perform_turn_of_none (by simp [found']))
  | some line =>
    have found' := indistinct.line.trans found
    have both := same line found
    cases moved : line.session.turn s.service s.now t with
    | none =>
      have moved' : line.session.turn s'.service s'.now t = none := by simpa [moved] using both.symm
      exact indistinct.still (perform_turn_of_none (by simpa [found] using moved))
        (perform_turn_of_none (by simpa [found'] using moved'))
    | some m =>
      obtain ⟨m', moved', outward⟩ : ∃ m', line.session.turn s'.service s'.now t = some m' ∧ m'.outward = m.outward := by
        rw [moved, Option.map_some, eq_comm, Option.map_eq_some_iff] at both
        exact both
      obtain ⟨session, sent, meter⟩ : m'.session = m.session ∧ m'.sent = m.sent ∧ m'.meter = m.meter := by
        simpa [Session.Moved.outward] using outward
      have acted := acted_of_turn found moved
      have acted' := acted_of_turn found' moved'
      have log' := log_of_turn found' moved'
      rw [session, sent, meter] at acted'
      rw [session] at log'
      exact ⟨indistinct.acted found acted acted',
        m.meter, logged i m.session, acted.meter, acted'.meter, log_of_turn found moved, log'⟩

/-- The connection waits for the secret or has ended. -/
def Unadmitted (s : Server) (i : Nat) : Prop :=
  ∀ line, s.lines[i]? = some line →
    line.session.hasEnded = true ∨ ∃ deadline, line.session.phase = .greeting deadline

/-- To cut off a connection that was not admitted counts nothing. -/
private theorem Indistinct.cut (indistinct : Indistinct i s s') (unadmitted : s.Unadmitted i) :
    Indistinct i (s.perform (.cut i)) (s'.perform (.cut i)) ∧ CountsAlike s s' (.cut i) := by
  by_cases closed : s.running = true ∨ ∀ line, s.lines[i]? = some line → line.session.hasEnded = true
  · have closed' : s'.running = true ∨ ∀ line, s'.lines[i]? = some line → line.session.hasEnded = true := by
      rwa [indistinct.running, indistinct.line]
    exact indistinct.still (perform_cut_of_none closed) (perform_cut_of_none closed')
  · simp only [not_or, Bool.not_eq_true, not_forall] at closed
    obtain ⟨stopped, line, found, live⟩ := closed
    have stopped' := indistinct.running.trans stopped
    have found' := indistinct.line.trans found
    obtain ⟨deadline, greeting⟩ := (unadmitted line found).resolve_left (by simp [live])
    have acted := acted_of_cut stopped found live
    have acted' := acted_of_cut stopped' found' live
    refine ⟨indistinct.acted found acted acted', ?_⟩
    -- It has no wait that could be given up.
    have idle : ∀ r : Registry, line.session.abandon r = (r, {}) :=
      fun r => Session.abandon_of_idle r (by simp [greeting])
    refine .nothing ?_ ?_ (s.log_of_cut i) (s'.log_of_cut i)
    · rw [acted.meter, idle, Meter.add_empty]
    · rw [acted'.meter, idle, Meter.add_empty]

/-- A first frame that is not shown to be admitted is refused. -/
private theorem refused_of_silent (found : s.lines[i]? = some line) {deadline : Option Nat}
    (greeting : line.session.phase = .greeting deadline) (silent : .authenticated i ∉ s.events (.turn i .input))
    {body : Bytes} (first : line.session.frame? = some body) : s.service.admits body = false := by
  have item : line.session.inlet.next.1 = .frame body := by
    cases next : line.session.inlet.next.1 <;> simp_all [Session.frame?]
  obtain ⟨m, moved⟩ : ∃ m, line.session.turn s.service s.now .input = some m :=
    ⟨_, by simp only [Session.turn, Session.takeInput, Session.takeItem, greeting, item]; rfl⟩
  refine Bool.eq_false_iff.mpr fun admitted => silent ?_
  simp [events, found, moved, Session.turnEvents, Session.readEvents, first, greeting, admitted]

/-- One operation, while neither server admits the connection. -/
private theorem Indistinct.step (indistinct : Indistinct i s s') (unadmitted : s.Unadmitted i)
    (silent : .authenticated i ∉ s.events op) (silent' : .authenticated i ∉ s'.events op) :
    Indistinct i (s.perform op) (s'.perform op) ∧ (¬ op.Elsewhere i → CountsAlike s s' op) := by
  obtain ⟨config, now, running, size, line⟩ := indistinct
  have indistinct : Indistinct i s s' := ⟨config, now, running, size, line⟩
  cases op with
  | accept =>
    cases going : s.running with
    | true =>
      have going' := running.trans going
      rw [perform_accept going, perform_accept going']
      refine ⟨⟨config, now, running, by simpa using size, ?_⟩, fun _ => ⟨{ accepted := 1 }, [], ?_, ?_, ?_, ?_⟩⟩
      · simp [Array.getElem?_push, size, line]
      · rw [perform_accept going]
      · rw [perform_accept going']
      · rw [perform_accept going, List.append_nil]
      · rw [perform_accept going', List.append_nil]
    | false =>
      have going' := running.trans going
      refine (indistinct.still ?_ ?_).imp_right fun counts _ => counts
      · simp [perform, Server.accept, going]
      · simp [perform, Server.accept, going']
  | receive j bytes =>
    exact ⟨indistinct.modify j fun c => { c with inlet := c.inlet.push bytes }, fun _ => .nothing rfl rfl rfl rfl⟩
  | halfClose j =>
    exact ⟨indistinct.modify j fun c => { c with inlet := c.inlet.close }, fun _ => .nothing rfl rfl rfl rfl⟩
  | close j =>
    exact ⟨indistinct.modify j fun c => { c with inlet := c.inlet.close, gone := true },
      fun _ => .nothing rfl rfl rfl rfl⟩
  | advance ms =>
    exact ⟨⟨config, congrArg (· + ms) now, running, size, line⟩, fun _ => .nothing rfl rfl rfl rfl⟩
  | stop => exact ⟨⟨config, now, rfl, size, line⟩, fun _ => .nothing rfl rfl rfl rfl⟩
  | cut j =>
    by_cases same : i = j
    · subst same
      exact (indistinct.cut unadmitted).imp_right fun counts _ => counts
    · exact ⟨indistinct.elsewhere (.inr rfl) same, fun here => absurd (Ne.symm same) here⟩
  | turn j t =>
    by_cases same : i = j
    · subst same
      refine (indistinct.turn fun line found => ?_).imp_right fun counts _ => counts
      rcases unadmitted line found with ended | ⟨deadline, greeting⟩
      · rw [Session.turn_of_ended ended, Session.turn_of_ended ended]
      · rw [now]
        refine Session.outward_turn config greeting fun input body first => ?_
        subst input
        exact ⟨refused_of_silent found greeting silent first,
          refused_of_silent (indistinct.line.trans found) greeting silent' first⟩
    · exact ⟨indistinct.elsewhere (.inl ⟨t, rfl⟩) same, fun here => absurd (Ne.symm same) here⟩

/-- A connection of which it was not shown that it was admitted waits for the secret or has ended. -/
private theorem Chronicle.unadmitted_of_silent (chronicle : s.Chronicle h) (silent : .authenticated i ∉ h) :
    s.Unadmitted i := by
  intro line found
  have told := chronicle.told found
  cases phase : line.session.phase with
  | greeting deadline => exact .inr ⟨deadline, rfl⟩
  | serving => exact absurd (told.serving phase) silent
  | waiting handle place w => exact absurd (told.waiting phase) silent
  | ended how => exact .inl (Session.hasEnded_of_ended phase)

theorem Indistinct.run (indistinct : Indistinct i s s') (linked : s.Linked) (chronicle : s.Chronicle h)
    (ops : List Operation) (silent : .authenticated i ∉ h ++ s.history ops)
    (silent' : .authenticated i ∉ s'.history ops) : Indistinct i (s.run ops) (s'.run ops) := by
  induction ops generalizing s s' h with
  | nil => exact indistinct
  | cons op ops ih =>
    simp only [history_cons, List.mem_append, not_or] at silent silent'
    obtain ⟨before, now, later⟩ := silent
    have step := perform_step s op
    have next := (indistinct.step (chronicle.unadmitted_of_silent before) now silent'.1).1
    refine ih next (step.turned linked).linked (step.chronicle linked chronicle) ?_ silent'.2
    simp only [List.mem_append, not_or]
    exact ⟨⟨before, now⟩, later⟩

/-- The responses begin with a welcome, or they are a rejection or nothing at all. -/
structure Greeted (config : ServerConfig) (session : Session) (responses : List Response) : Prop where
  greeting : ∀ {deadline}, session.phase = .greeting deadline → responses = []
  live : session.hasEnded = false → (∀ deadline, session.phase ≠ .greeting deadline) →
    ∃ later, responses = .welcome config.parties :: later
  ended : session.hasEnded = true →
    responses = [] ∨ responses = [Session.rejection] ∨ ∃ later, responses = .welcome config.parties :: later

/-- While the connection is open nothing but a welcome comes first. -/
private theorem Greeted.of_live {config : ServerConfig} {session : Session} {responses : List Response}
    (greeted : Greeted config session responses) (live : session.hasEnded = false) :
    responses = [] ∨ ∃ later, responses = .welcome config.parties :: later := by
  by_cases greeting : ∃ deadline, session.phase = .greeting deadline
  · obtain ⟨deadline, greeting⟩ := greeting
    exact .inl (greeted.greeting greeting)
  · exact .inr (greeted.live live (not_exists.mp greeting))

/-- A welcome stays the first response. -/
private theorem Greeted.of_welcome {config : ServerConfig} {session : Session} {later : List Response}
    (greeted : ∀ deadline, session.phase ≠ .greeting deadline) :
    Greeted config session (.welcome config.parties :: later) :=
  ⟨fun greeting => absurd greeting (greeted _), fun _ _ => ⟨later, rfl⟩, fun _ => .inr (.inr ⟨later, rfl⟩)⟩

theorem greeted_kept (config : ServerConfig) :
    Kept config fun session _ responses => Greeted config session responses where
  new := ⟨fun _ => rfl, fun _ away => absurd rfl (away _), fun _ => .inl rfl⟩
  heard := by
    intro session session' _ responses greeted phase _
    have ended : session'.hasEnded = session.hasEnded := by simp [Session.hasEnded, phase]
    refine ⟨?_, ?_, ?_⟩
    · rw [phase]
      exact greeted.greeting
    · rw [phase, ended]
      exact greeted.live
    · rw [ended]
      exact greeted.ended
  turned := by
    intro service now session t m _ responses greeted same _ bound moved
    by_cases greeting : ∃ deadline, session.phase = .greeting deadline
    · obtain ⟨deadline, greeting⟩ := greeting
      obtain rfl := greeted.greeting greeting
      cases Session.turn_talk bound moved with
      | welcomed _ _ _ sent session' _ =>
        rw [sent, same]
        exact .of_welcome (by simp [session'])
      | refused _ sent ended =>
        have closed := Session.hasEnded_of_ended ended
        refine ⟨by simp [ended], by simp [closed], ?_⟩
        intro _
        rcases sent with sent | ⟨sent, _⟩
        · exact .inl (by simp [sent])
        · exact .inr (.inl (by simp [sent]))
      | begun fresh => exact ⟨fun _ => rfl, fun _ away => absurd rfl (away _), fun _ => .inl rfl⟩
      | served serving => simp [greeting] at serving
      | malformed serving => simp [greeting] at serving
      | closing serving => simp [greeting] at serving
      | aside waiting => simp [greeting] at waiting
      | left waiting => simp [greeting] at waiting
      | pending waiting => simp [greeting] at waiting
      | returned waiting => simp [greeting] at waiting
      | unheard waiting => simp [greeting] at waiting
    · have live : session.hasEnded = false := by
        refine Bool.eq_false_iff.mpr fun ended => ?_
        rw [Session.turn_of_ended ended] at moved
        cases moved
      obtain ⟨later, rfl⟩ := greeted.live live (not_exists.mp greeting)
      refine .of_welcome fun deadline still => ?_
      exact greeting ⟨_, (Session.begun_of_greeting bound moved still).1⟩
  cut := by
    intro session _ responses greeted live
    refine ⟨by simp, by simp [Session.hasEnded], ?_⟩
    intro _
    rcases greeted.of_live live with nothing | welcomed
    · exact .inl nothing
    · exact .inr (.inr welcomed)

/-- The bytes that a connection was sent begin with a welcome, or they are a rejection or nothing at all. -/
theorem opening_of_run (config : ServerConfig) (secret : Secret) (address : Address) (complaint : Bytes → String)
    (ops : List Operation) (found : ((start config secret address complaint).run ops).lines[i]? = some line) :
    line.outgoing = [] ∨ line.outgoing = frameOf Session.rejection ∨
      ∃ later, line.outgoing = frameOf (.welcome config.parties) ++ later := by
  have greeted : Greeted config line.session _ := (greeted_kept config).run secret address complaint ops found
  have written :
      line.outgoing = (responsesTo i ((start config secret address complaint).history ops)).flatMap frameOf :=
    (start_chronicle config secret address complaint ops).written found
  generalize responsesTo i ((start config secret address complaint).history ops) = responses at greeted written
  have opening : responses = [] ∨ responses = [Session.rejection] ∨
      ∃ later, responses = .welcome config.parties :: later := by
    cases ended : line.session.hasEnded with
    | true => exact greeted.ended ended
    | false =>
      rcases greeted.of_live ended with nothing | welcomed
      · exact .inl nothing
      · exact .inr (.inr welcomed)
  rw [written]
  rcases opening with rfl | rfl | ⟨later, rfl⟩
  · exact .inl rfl
  · exact .inr (.inl (by simp))
  · exact .inr (.inr ⟨later.flatMap frameOf, by simp⟩)

/-- A failed handshake reveals nothing about the secret: to a connection that is admitted by neither of two servers they
    do not differ, and what it is sent before a welcome is at most the one rejection. -/
theorem failed_handshake_reveals_nothing (config : ServerConfig) (secret secret' : Secret) (address : Address)
    (complaint : Bytes → String) (ops : List Operation) (op : Operation) (i : Nat) :
    let s := start config secret address complaint
    let s' := start config secret' address complaint
    (.authenticated i ∉ s.history (ops ++ [op]) → .authenticated i ∉ s'.history (ops ++ [op]) →
        (s.run (ops ++ [op])).lines[i]? = (s'.run (ops ++ [op])).lines[i]? ∧
          (¬ op.Elsewhere i → CountsAlike (s.run ops) (s'.run ops) op)) ∧
      ∀ line, (s.run (ops ++ [op])).lines[i]? = some line →
        line.outgoing = [] ∨ line.outgoing = frameOf Session.rejection ∨
          ∃ later, line.outgoing = frameOf (.welcome config.parties) ++ later := by
  intro s s'
  refine ⟨fun silent silent' => ?_,
    fun line found => opening_of_run config secret address complaint (ops ++ [op]) found⟩
  have alike : Indistinct i s s' := ⟨rfl, rfl, rfl, rfl, rfl⟩
  have linked : s.Linked := fun found => by simp [s, start] at found
  have chronicle : s.Chronicle [] := start_chronicle config secret address complaint []
  simp only [history_append, history_cons, history_nil, List.append_nil, List.mem_append, not_or] at silent silent'
  have before : Indistinct i (s.run ops) (s'.run ops) := alike.run linked chronicle ops silent.1 silent'.1
  have unadmitted : (s.run ops).Unadmitted i :=
    (start_chronicle config secret address complaint ops).unadmitted_of_silent silent.1
  obtain ⟨after, counts⟩ := before.step unadmitted silent.2 silent'.2
  rw [run_append, run_append]
  exact ⟨after.line.symm, counts⟩

/-- A connection shows this secret. -/
def showing (secret : Secret) : List Operation :=
  [.accept, .receive 0 (Frame.frame (Request.hello secret.toBase64).encode)]

theorem failed_handshake_reveals_nothing_showing :
    let server (key : UInt8) :=
      start { parties := 2 } ⟨List.replicate 32 key, rfl⟩ (.v4 127 0 0 1 50000) Request.complaint
    let ops := showing ⟨List.replicate 32 9, rfl⟩
    let op := Operation.turn 0 .input
    (.authenticated 0 ∉ (server 7).history (ops ++ [op]) ∧ .authenticated 0 ∉ (server 8).history (ops ++ [op]) ∧
        ¬ op.Elsewhere 0) ∧
      ((server 7).run (ops ++ [op])).lines[0]? = ((server 8).run (ops ++ [op])).lines[0]? ∧
      CountsAlike ((server 7).run ops) ((server 8).run ops) op ∧
      ((server 7).run (ops ++ [op])).lines[0]?.map Line.outgoing = some (frameOf Session.rejection) := by
  intro server ops op
  have silent : .authenticated 0 ∉ (server 7).history (ops ++ [op]) := by decide +kernel
  have silent' : .authenticated 0 ∉ (server 8).history (ops ++ [op]) := by decide +kernel
  have here : ¬ op.Elsewhere 0 := fun elsewhere => elsewhere rfl
  obtain ⟨same, counts⟩ := (failed_handshake_reveals_nothing { parties := 2 } ⟨List.replicate 32 7, rfl⟩
    ⟨List.replicate 32 8, rfl⟩ (.v4 127 0 0 1 50000) Request.complaint ops op 0).1 silent silent'
  exact ⟨⟨silent, silent', here⟩, same, counts here, by decide +kernel⟩

end Server
end Lockstep
