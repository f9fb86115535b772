import Lockstep.Proofs.Remote.Answers

namespace Lockstep
open Client

namespace Session

variable {service : Service} {now : Nat} {s : Session} {t : Turn} {m : Moved} {coming bytes : Bytes}
  {body : Option Bytes}

/-- At most this frame comes to the session, which holds nothing back and can write. -/
structure Clear (s : Session) (coming : Bytes) (body : Option Bytes) : Prop where
  gone : s.gone = false
  goes : s.inlet.Open
  holds : s.inlet.Holds coming body
  backlog : s.backlog = []

theorem Clear.push (clear : s.Clear (bytes ++ coming) body) :
    ({ s with inlet := s.inlet.push bytes } : Session).Clear coming body :=
  ⟨clear.gone, clear.goes, clear.holds.push, clear.backlog⟩

theorem Clear.write (clear : s.Clear coming none) {b : Bytes} (small : b.length ≤ Frame.maxBody) :
    s.Clear (coming ++ Frame.frame b) (some b) :=
  ⟨clear.gone, clear.goes, clear.holds.write small, clear.backlog⟩

private theorem Clear.writeFault? (clear : s.Clear coming body) {response : Response}
    (fits : response.encode.length ≤ Frame.maxBody) : s.writeFault? response = none := by
  have room : ¬ Frame.maxBody < response.encode.length := Nat.not_lt.mpr fits
  simp [Session.writeFault?, room, clear.gone]

/-- What the phase changes does not concern what comes. -/
theorem Clear.of_same {s' : Session} (clear : s.Clear coming body) (gone : s'.gone = s.gone)
    (inlet : s'.inlet = s.inlet) (backlog : s'.backlog = s.backlog) : s'.Clear coming body where
  gone := gone.trans clear.gone
  goes := by rw [inlet]; exact clear.goes
  holds := by rw [inlet]; exact clear.holds
  backlog := backlog.trans clear.backlog

theorem Clear.at_phase (clear : s.Clear coming body) (phase : Phase) : ({ s with phase } : Session).Clear coming body :=
  clear.of_same rfl rfl rfl

/-- Before the secret is shown no turn concerns the barriers. -/
theorem Did.first (did : Did service now s t m) {deadline : Option Nat} (greeting : s.phase = .greeting deadline) :
    m.registry = service.registry ∧ m.session.handles = s.handles := by
  cases did with
  | welcome _ _ _ registry handles => exact ⟨registry, handles⟩
  | reject _ _ registry handles => exact ⟨registry, handles⟩
  | begin => exact ⟨rfl, rfl⟩
  | answer phase | issue phase | command phase | await phase | putAside phase | leave phase | pending phase
  | finish phase | stray phase =>
    rw [greeting] at phase
    cases phase

/-- The peer is welcome, or the connection ends, or it goes on waiting for the secret. -/
theorem Talk.first (talk : Talk service now s t m) {deadline : Option Nat} (greeting : s.phase = .greeting deadline) :
    (∃ bytes, s.frame? = some bytes ∧ m.sent = some (.welcome service.config.parties) ∧
        m.session = { s.taken with phase := .serving }) ∨
      ((m.sent = none ∨ m.sent = some rejection) ∧ ∃ how, m.session.phase = .ended how) ∨
      m = s.begin service now := by
  cases talk with
  | welcomed _ framed _ told session => exact .inl ⟨_, framed, told, session⟩
  | refused _ told ended => exact .inr (.inl ⟨told.imp_right And.left, _, ended⟩)
  | begun => exact .inr (.inr rfl)
  | served phase | malformed phase | closing phase | aside phase | left phase | pending phase | returned phase
  | unheard phase =>
    rw [greeting] at phase
    cases phase

theorem look_of_serving (serving : s.phase = .serving) : s.turn service now .look = none := by
  simp [turn, look, serving]

/-- A frame of which a part is missing is waited for. -/
theorem Clear.input_none (clear : s.Clear coming body) (missing : body = none ∨ coming ≠ []) (service : Service)
    (now : Nat) :
    s.frame? = none ∧ s.turn service now .input = none := by
  rcases clear.holds.next_cases clear.goes with ⟨b, _, here, arrived, _⟩ | ⟨_, i', pending, _⟩
  · rcases missing with absent | coming
    · rw [absent] at here
      cases here
    · exact absurd arrived coming
  · constructor
    · unfold frame?
      rw [clear.backlog, pending]
      cases s.phase <;> rfl
    · simp only [turn, takeInput, clear.backlog, pending, takeItem]
      cases s.phase <;> rfl

/-- A frame that has come is taken. -/
theorem Clear.input_some (clear : s.Clear [] (some bytes)) (serving : s.phase = .serving) (service : Service)
    (now : Nat) :
    s.frame? = some bytes ∧ s.taken.Clear [] none ∧ ∃ m, s.turn service now .input = some m := by
  rcases clear.holds.next_cases clear.goes with ⟨b, i', here, _, found, goes, holds⟩ | ⟨missing, _⟩
  · obtain rfl : bytes = b := Option.some.inj here
    have same : s.taken = { s with inlet := i' } := by simp [taken, serving, clear.backlog, found]
    refine ⟨by simp [frame?, serving, clear.backlog, found], ?_, ?_⟩
    · rw [same]
      exact ⟨clear.gone, goes, holds, clear.backlog⟩
    · simp [turn, takeInput, serving, clear.backlog, found, takeItem]
  · rcases missing with absent | coming
    · cases absent
    · exact absurd rfl coming

/-- Between two requests nothing happens. -/
theorem Clear.quiet (clear : s.Clear coming none) (serving : s.phase = .serving) :
    s.turn service now t = none ∧ s.request? = none := by
  obtain ⟨unframed, none⟩ := clear.input_none (.inl rfl) service now
  refine ⟨?_, by simp [request?, serving, unframed]⟩
  cases t with
  | look => exact look_of_serving serving
  | input => exact none

/-- The request is taken when all of it has come. -/
theorem Clear.request (clear : s.Clear coming (some bytes)) (serving : s.phase = .serving) {r : Request}
    (read : Request.decode? bytes = some r) (bound : Bound service.registry s) :
    (s.turn service now .input = none ∧ s.request? = none) ∨
      (s.request? = some r ∧ s.taken.Clear [] none ∧
        ∃ m, s.turn service now .input = some m ∧ Carried service s.taken r m) := by
  by_cases arrived : coming = []
  · subst arrived
    obtain ⟨framed, after, m, moved⟩ := clear.input_some serving service now
    refine .inr ⟨by simp [request?, serving, framed, read], after, m, moved, ?_⟩
    cases turn_talk bound moved with
    | served _ framed' read' carried =>
      rw [framed, Option.some.injEq] at framed'
      rw [← framed', read, Option.some.injEq] at read'
      rw [read']
      exact carried
    | malformed _ framed' read' =>
      rw [framed, Option.some.injEq] at framed'
      rw [← framed', read] at read'
      cases read'
    | closing _ unframed =>
      rw [framed] at unframed
      cases unframed
    | welcomed phase | refused phase | aside phase | left phase =>
      rw [serving] at phase
      cases phase
  · obtain ⟨unframed, none⟩ := clear.input_none (.inr arrived) service now
    exact .inl ⟨none, by simp [request?, serving, unframed]⟩

variable {c : Session} {r : Request}

/-- A request that can be answered at once is. -/
theorem Carried.at_once (carried : Carried service c r m) (clear : c.Clear coming body)
    (positive : 0 < service.registry.options.parties) {response : Response}
    (answer : r.answer? service.registry c.keys = some response) (fits : response.encode.length ≤ Frame.maxBody) :
    m.sent = some response ∧ m.session = { c with handles := m.session.handles } ∧
      m.session.keys = c.keys ++ r.issues ∧ m.registry = r.effect service.registry c.keys := by
  cases carried with
  | answered response' answer' sent session keys effect =>
    rw [answer, Option.some.injEq] at answer'
    rw [answer']
    exact ⟨sent, session, keys, effect⟩
  | awaited h timeout key place request found =>
    rw [request] at answer
    simp [Request.answer?, Request.answer?.on, keyOf?_of_binding found] at answer
  | failed how _ _ cause =>
    rcases cause with none | ⟨response', answer', fault⟩
    · omega
    · rw [answer, Option.some.injEq] at answer'
      rw [← answer', clear.writeFault? fits] at fault
      exact absurd rfl fault

/-- A wait on a barrier that was asked for begins. -/
theorem Carried.await {h : Handle} {timeout : Option Nat} {key : PartitionKey}
    (carried : Carried service c (.wait h timeout) m) (known : keyOf? c.keys h = some key)
    (positive : 0 < service.registry.options.parties) : ∃ place, c.binding? h = some (key, place) ∧ m.sent = none ∧
      m.registry = service.registry ∧ m.session = { c with
        phase := .waiting h place { timeout := timeout.orElse fun _ => service.config.waitTimeout } } := by
  have open_ : (Request.wait h timeout).answer? service.registry c.keys = none := by
    simp [Request.answer?, Request.answer?.on, known]
  cases carried with
  | answered response answer =>
    rw [open_] at answer
    cases answer
  | awaited h' timeout' key' place request found sent session registry =>
    cases request
    rw [keyOf?_of_binding found, Option.some.injEq] at known
    rw [known] at found
    exact ⟨place, found, sent, registry, session⟩
  | failed how _ _ cause =>
    rcases cause with none | ⟨response, answer, _⟩
    · omega
    · rw [open_] at answer
      cases answer

/-- While a wait is open, only looking after it can come to something. -/
theorem Clear.look (clear : s.Clear coming none) {h : Handle} {place : Registry.Place} {w : Barrier.Wait}
    (waiting : s.phase = .waiting h place w) {b : Barrier} (there : service.registry.barrier? place = some b)
    (bound : Bound service.registry s)
    (readable : ∀ result, (b.poll now w).2.1 = .done result → (responseOf result).encode.length ≤ Frame.maxBody) :
    s.turn service now .input = none ∧
      ((s.turn service now .look = none ∧ (b.poll now w).2.1 = .pending w) ∨
        ∃ m, s.turn service now .look = some m ∧ m.registry = service.registry.put place (b.poll now w).1 ∧
          ((∃ w', (b.poll now w).2.1 = .pending w' ∧ m.sent = none ∧
              m.session = { s with phase := .waiting h place w' }) ∨
            ∃ result, (b.poll now w).2.1 = .done result ∧ m.sent = some (responseOf result) ∧
              m.session = { s with phase := .serving })) := by
  refine ⟨(clear.input_none (.inl rfl) service now).2, ?_⟩
  cases moved : s.turn service now .look with
  | none =>
    refine .inl ⟨rfl, ?_⟩
    simp only [turn, Session.look, waiting] at moved
    have still : (s.pollWait service now h place w).session.phase = .waiting h place w := by
      by_cases same : (s.pollWait service now h place w).session.phase = .waiting h place w
      · exact same
      · simp [same] at moved
    unfold pollWait at still
    simp only [there] at still
    cases polled : (b.poll now w).2.1 with
    | pending w' =>
      simp only [polled, Phase.waiting.injEq] at still
      rw [still.2.2]
    | done result =>
      simp only [polled] at still
      have serving : ({ s with phase := .serving } : Session).phase = .serving := rfl
      obtain ⟨_, _, idle, _⟩ := reply_eq (s := { s with phase := .serving })
        (service.registry.put place (b.poll now w).1) (responseOf result) (b.poll now w).2.2 serving
      exact absurd still (idle.ne_waiting _ _ _)
  | some m =>
    refine .inr ⟨m, rfl, ?_⟩
    have talk := turn_talk bound moved
    cases talk with
    | refused greeting | begun greeting =>
      rw [waiting] at greeting
      cases greeting
    | @pending _ h' place' w₀ b' w' waiting' there' polled sent session registry =>
      rw [waiting, Phase.waiting.injEq] at waiting'
      obtain ⟨rfl, rfl, rfl⟩ := waiting'
      rw [there, Option.some.injEq] at there'
      subst there'
      exact ⟨registry, .inl ⟨w', polled, sent, session⟩⟩
    | @returned _ h' place' w₀ b' result waiting' there' polled sent session registry =>
      rw [waiting, Phase.waiting.injEq] at waiting'
      obtain ⟨rfl, rfl, rfl⟩ := waiting'
      rw [there, Option.some.injEq] at there'
      subst there'
      exact ⟨registry, .inr ⟨result, polled, sent, session⟩⟩
    | @unheard _ h' place' w₀ b' result how waiting' there' polled _ _ fault =>
      rw [waiting, Phase.waiting.injEq] at waiting'
      obtain ⟨rfl, rfl, rfl⟩ := waiting'
      rw [there, Option.some.injEq] at there'
      subst there'
      exact absurd (clear.writeFault? (readable result polled)) fault

end Session
end Lockstep
