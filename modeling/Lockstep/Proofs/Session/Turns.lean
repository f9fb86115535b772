import Lockstep.Proofs.Server.Run

namespace Lockstep

/-- A response that only waits get. -/
def Response.ofWait : Response → Bool
  | .arrived _ | .error .barrierBroken _ => true
  | _ => false

namespace Session

/-- What was written, if anything, is no response to a wait. -/
def Moved.AnswersNoWait (m : Moved) : Prop :=
  ∀ response, m.sent = some response → response.ofWait = false

/-- No wait is open. -/
def Idle (s : Session) : Prop :=
  s.phase = .serving ∨ ∃ how, s.phase = .ended how

/-- What a turn can come to. -/
inductive Did (service : Service) (now : Nat) (s : Session) : Turn → Moved → Prop
  /-- The first frame showed the secret. -/
  | welcome {m deadline body} : s.phase = .greeting deadline → s.frame? = some body → service.admits body = true →
      m.registry = service.registry → m.session.handles = s.handles → m.session.Idle → m.AnswersNoWait →
      Did service now s .input m
  /-- The connection ends before the secret was shown. -/
  | reject {t m deadline how} : s.phase = .greeting deadline →
      (∀ body, s.frame? = some body → service.admits body = false) → m.registry = service.registry →
      m.session.handles = s.handles → m.session.phase = .ended how → m.AnswersNoWait → Did service now s t m
  /-- The session runs for the first time, and no first frame is there. -/
  | begin : s.phase = .greeting none → Did service now s .look (s.begin service now)
  /-- A request is answered, or the connection ends between two requests. -/
  | answer {m} : s.phase = .serving → m.registry = service.registry → m.session.handles = s.handles →
      m.session.Idle → m.AnswersNoWait → Did service now s .input m
  | issue {m key place meter} : s.phase = .serving →
      service.registry.getOrCreate key = (m.registry, some place, meter) →
      m.session.handles = s.handles.push (key, place) → m.session.Idle → m.AnswersNoWait → Did service now s .input m
  /-- A barrier is aborted or reset. -/
  | command {m h key place f} : s.phase = .serving → s.binding? h = some (key, place) →
      (f = Barrier.abort ∨ f = Barrier.reset) → m.registry = (service.registry.update place f).1 →
      m.session.handles = s.handles → m.session.Idle → m.AnswersNoWait → Did service now s .input m
  /-- A wait begins. -/
  | await {m body h asked key place timeout} : s.phase = .serving → s.frame? = some body →
      Request.decode? body = some (.wait h asked) → s.binding? h = some (key, place) → m.registry = service.registry →
      m.session.handles = s.handles → m.session.phase = .waiting h place { timeout } → m.sent = none →
      Did service now s .input m
  | putAside {m h place w} : s.phase = .waiting h place w → m.registry = service.registry →
      m.session.handles = s.handles → m.session.phase = s.phase → m.sent = none → Did service now s .input m
  /-- The connection ends while its wait is open. -/
  | leave {m h place w how} : s.phase = .waiting h place w → m.registry = (service.registry.update place (·.drop w)).1 →
      m.session.handles = s.handles → m.session.phase = .ended how → m.AnswersNoWait → Did service now s .input m
  /-- The wait is polled and still open. -/
  | pending {m h place w b w'} : s.phase = .waiting h place w → service.registry.barrier? place = some b →
      (b.poll now w).2.1 = .pending w' → m.registry = service.registry.put place (b.poll now w).1 →
      m.session.handles = s.handles → m.session.phase = .waiting h place w' → m.sent = none → Did service now s .look m
  /-- The wait is polled and over. -/
  | finish {m h place w b result} : s.phase = .waiting h place w → service.registry.barrier? place = some b →
      (b.poll now w).2.1 = .done result → m.registry = service.registry.put place (b.poll now w).1 →
      m.session.handles = s.handles → m.session.Idle → (m.sent = none ∨ m.sent = some (responseOf result)) →
      Did service now s .look m
  /-- The barrier of the wait is not there. -/
  | stray {m h place w} : s.phase = .waiting h place w → service.registry.barrier? place = none →
      Did service now s .look m

theorem Idle.ne_waiting {s : Session} (idle : s.Idle) (h : Handle) (place : Registry.Place) (w : Barrier.Wait) :
    s.phase ≠ .waiting h place w := by
  intro waiting
  rcases idle with serving | ⟨how, ended⟩
  · rw [serving] at waiting
    cases waiting
  · rw [ended] at waiting
    cases waiting

theorem Idle.ne_greeting {s : Session} (idle : s.Idle) (deadline : Option Nat) : s.phase ≠ .greeting deadline := by
  intro greeting
  rcases idle with serving | ⟨how, ended⟩
  · rw [serving] at greeting
    cases greeting
  · rw [ended] at greeting
    cases greeting

theorem abandon_of_idle {s : Session} (r : Registry) (idle : ∀ h place w, s.phase ≠ .waiting h place w) :
    s.abandon r = (r, {}) := by
  unfold abandon
  split
  · rename_i h place w waiting
    exact absurd waiting (idle h place w)
  · rfl

theorem abandon_of_waiting {s : Session} (r : Registry) {h : Handle} {place : Registry.Place} {w : Barrier.Wait}
    (waiting : s.phase = .waiting h place w) : s.abandon r = r.update place (·.drop w) := by
  simp [abandon, waiting]

theorem finishWith_eq (s : Session) (r : Registry) (response : Response) (how : Ending) :
    (s.finishWith r response how).registry = (s.abandon r).1 ∧
      (s.finishWith r response how).session.handles = s.handles ∧
      (∃ how', (s.finishWith r response how).session.phase = .ended how') ∧
      ((s.finishWith r response how).sent = none ∨ (s.finishWith r response how).sent = some response) := by
  unfold finishWith
  split
  · exact ⟨rfl, rfl, ⟨_, rfl⟩, .inl rfl⟩
  · exact ⟨rfl, rfl, ⟨_, rfl⟩, .inr rfl⟩

theorem reply_eq {s : Session} (r : Registry) (response : Response) (meter : Meter) (serving : s.phase = .serving) :
    (s.reply r response meter).registry = r ∧ (s.reply r response meter).session.handles = s.handles ∧
      (s.reply r response meter).session.Idle ∧
      ((s.reply r response meter).sent = none ∨ (s.reply r response meter).sent = some response) := by
  have idle : s.abandon r = (r, {}) := abandon_of_idle r (by simp [serving])
  unfold reply
  split
  · exact ⟨by simp [finish, idle], rfl, .inr ⟨_, rfl⟩, .inl rfl⟩
  · exact ⟨rfl, rfl, .inl serving, .inr rfl⟩

private theorem answersNoWait_of {m : Moved} {response : Response} (sent : m.sent = none ∨ m.sent = some response)
    (other : response.ofWait = false) : m.AnswersNoWait := by
  intro written equal
  rcases sent with none | some
  · rw [none] at equal
    cases equal
  · rw [some, Option.some.injEq] at equal
    rw [← equal]
    exact other

section
variable {service : Service} {now : Nat} {s c : Session}

/-- Answering a request changes nothing but what is sent. -/
private theorem reply_did (serving : s.phase = .serving) (phase : c.phase = .serving) (same : c.handles = s.handles)
    {response : Response} (other : response.ofWait = false) (meter : Meter) :
    Did service now s .input (c.reply service.registry response meter) := by
  obtain ⟨registry, handles, idle, sent⟩ := reply_eq service.registry response meter phase
  exact .answer serving registry (handles.trans same) idle (answersNoWait_of sent other)

/-- Ending a connection between two requests changes nothing but what is sent. -/
private theorem finish_did (serving : s.phase = .serving) (phase : c.phase = .serving) (same : c.handles = s.handles)
    (how : Ending) : Did service now s .input (c.finish service.registry how) := by
  have idle : c.abandon service.registry = (service.registry, {}) := abandon_of_idle _ (by simp [phase])
  exact .answer serving (by simp [finish, idle]) same (.inr ⟨how, rfl⟩) (fun _ => by simp [finish])

private theorem getOrCreate_none {r r' : Registry} {key : PartitionKey} {meter : Meter}
    (missing : r.getOrCreate key = (r', none, meter)) : r' = r := by
  unfold Registry.getOrCreate Registry.create at missing
  split at missing
  · simp at missing
  · split at missing
    · simp at missing
    · exact (Prod.mk.inj missing).1.symm

private theorem issue_did (serving : s.phase = .serving) (phase : c.phase = .serving) (same : c.handles = s.handles)
    (key : PartitionKey) : Did service now s .input (c.issue service.registry key) := by
  unfold issue
  rcases got : service.registry.getOrCreate key with ⟨r, place, meter⟩
  cases place with
  | none =>
    obtain rfl := getOrCreate_none got
    have idle : c.abandon service.registry = (service.registry, {}) := abandon_of_idle _ (by simp [phase])
    exact .answer serving (by simp [finish, idle]) same (.inr ⟨_, rfl⟩) (fun _ => by simp [finish])
  | some place =>
    have told := reply_eq (s := { c with handles := c.handles.push (key, place) }) r
      (.handle (c.handles.push (key, place)).size r.options.parties) meter phase
    simp only
    generalize reply _ _ _ _ = m at told ⊢
    obtain ⟨registry, handles, idle, sent⟩ := told
    exact .issue serving (by rw [registry]; exact got) (by rw [handles, same]) idle
      (answersNoWait_of sent rfl)

/-- A request on a handle is carried out on its barrier, or the handle is unknown. -/
private theorem withBarrier_did (serving : s.phase = .serving) (phase : c.phase = .serving)
    (same : c.handles = s.handles) (h : Handle) (f : Registry.Place → Moved)
    (does : ∀ key place, s.binding? h = some (key, place) → Did service now s .input (f place)) :
    Did service now s .input (c.withBarrier service.registry h f) := by
  have binding : c.binding? h = s.binding? h := by simp [binding?, same]
  unfold withBarrier
  rw [binding]
  cases bound : s.binding? h with
  | none => exact reply_did serving phase same rfl {}
  | some e => exact does e.1 e.2 bound

private theorem dispatch_did (serving : s.phase = .serving) (phase : c.phase = .serving) (same : c.handles = s.handles)
    {body : Bytes} (found : s.frame? = some body) {request : Request} (read : Request.decode? body = some request) :
    Did service now s .input (c.dispatch service request) := by
  cases request with
  | hello secret =>
    simp only [dispatch]
    exact reply_did serving phase same rfl {}
  | getBarrier key =>
    simp only [dispatch]
    exact issue_did serving phase same key
  | wait h timeout =>
    simp only [dispatch]
    refine withBarrier_did serving phase same h _ fun key place bound => ?_
    exact .await serving found read bound rfl same rfl rfl
  | status h =>
    simp only [dispatch]
    refine withBarrier_did serving phase same h _ fun key place bound => ?_
    cases service.registry.barrier? place with
    | some b => exact reply_did serving phase same rfl {}
    | none => exact finish_did serving phase same _
  | abort h =>
    simp only [dispatch]
    refine withBarrier_did serving phase same h _ fun key place bound => ?_
    obtain ⟨registry, handles, idle, sent⟩ := reply_eq (service.registry.update place Barrier.abort).1 .ok
      (service.registry.update place Barrier.abort).2 phase
    exact .command serving bound (.inl rfl) registry (handles.trans same) idle (answersNoWait_of sent rfl)
  | reset h =>
    simp only [dispatch]
    refine withBarrier_did serving phase same h _ fun key place bound => ?_
    obtain ⟨registry, handles, idle, sent⟩ := reply_eq (service.registry.update place Barrier.reset).1 .ok
      (service.registry.update place Barrier.reset).2 phase
    exact .command serving bound (.inr rfl) registry (handles.trans same) idle (answersNoWait_of sent rfl)

private theorem serve_did (serving : s.phase = .serving) (phase : c.phase = .serving) (same : c.handles = s.handles)
    {body : Bytes} (found : s.frame? = some body) : Did service now s .input (c.serve service body) := by
  unfold serve
  cases read : Request.decode? body with
  | some request => exact dispatch_did serving phase same found read
  | none =>
    simp only
    have idle : c.abandon service.registry = (service.registry, {}) := abandon_of_idle _ (by simp [phase])
    obtain ⟨registry, handles, ended, sent⟩ := finishWith_eq c service.registry
      (.ofFault (malformedFrame (service.complaint body))) (.malformed (service.complaint body))
    exact .answer serving (by rw [registry, idle]) (handles.trans same) (.inr ended)
      (answersNoWait_of sent rfl)

/-- Whoever is rejected is told so, if it still hears, and leaves no trace. -/
private theorem reject_eq {deadline : Option Nat} (phase : c.phase = .greeting deadline) (r : Registry)
    (why : Rejection) : (c.reject r why).registry = r ∧ (c.reject r why).session.handles = c.handles ∧
      (c.reject r why).session.phase = .ended (.rejected why) ∧ (c.reject r why).AnswersNoWait := by
  have idle : c.abandon r = (r, {}) := abandon_of_idle _ (by simp [phase])
  refine ⟨by simp [reject, finish, idle], rfl, rfl, fun response sent => ?_⟩
  simp only [reject] at sent
  split at sent
  · cases sent
  · rw [← Option.some.inj sent]
    rfl

private theorem greet_did {deadline : Option Nat} (greeting : s.phase = .greeting deadline)
    (phase : c.phase = .greeting deadline)
    (same : c.handles = s.handles) {body : Bytes} (first : s.frame? = some body) :
    Did service now s .input (c.greet service body) := by
  have rejected : ∀ why, service.admits body = false → Did service now s .input (c.reject service.registry why) := by
    intro why refused
    obtain ⟨registry, handles, ended, sent⟩ := reject_eq phase service.registry why
    exact .reject greeting
      (fun body' first' => by rw [first, Option.some.injEq] at first'; rw [← first']; exact refused)
      registry (handles.trans same) ended sent
  unfold greet
  cases decoded : Request.decode? body with
  | none => exact rejected _ (by simp [Service.admits, decoded])
  | some request =>
    cases request with
    | hello secret =>
      simp only
      split
      · rename_i verified
        obtain ⟨registry, handles, idle, sent⟩ := reply_eq (s := { c with phase := .serving }) service.registry
          (.welcome service.config.parties) {} rfl
        exact .welcome greeting first (by simp [Service.admits, decoded, verified]) registry (handles.trans same) idle
          (answersNoWait_of sent rfl)
      · rename_i wrong
        exact rejected _ (by simpa [Service.admits, decoded] using wrong)
    | _ => exact rejected _ (by simp [Service.admits, decoded])

/-- Ending a connection gives up its open wait. -/
private theorem leave_did {h : Handle} {place : Registry.Place} {w : Barrier.Wait}
    (waiting : s.phase = .waiting h place w) (phase : c.phase = .waiting h place w) (same : c.handles = s.handles)
    (how : Ending) :
    Did service now s .input (c.finish service.registry how) := by
  have abandoned := abandon_of_waiting service.registry phase
  exact .leave waiting (by simp [finish, abandoned]) same rfl (fun _ => by simp [finish])

private theorem putAside_did {h : Handle} {place : Registry.Place} {w : Barrier.Wait}
    (waiting : s.phase = .waiting h place w) (phase : c.phase = .waiting h place w) (same : c.handles = s.handles)
    (body : Bytes) :
    Did service now s .input (c.putAside service.registry h body) := by
  unfold putAside
  split
  · show Did service now s .input (c.finishWith service.registry
      (.ofFault ((Ending.overrun h).fault?.getD alreadyAuthenticated)) (.overrun h))
    have other : (Response.ofFault ((Ending.overrun h).fault?.getD alreadyAuthenticated)).ofWait = false := rfl
    generalize Response.ofFault _ = response at other ⊢
    have told := finishWith_eq c service.registry response (.overrun h)
    rw [abandon_of_waiting service.registry phase] at told
    obtain ⟨registry, handles, ⟨how, ended⟩, sent⟩ := told
    exact .leave waiting registry (handles.trans same) ended (answersNoWait_of sent other)
  · exact .putAside waiting rfl same (phase.trans waiting.symm) rfl

private theorem takeItem_of_greeting {m : Moved} {deadline : Option Nat} (phase : s.phase = .greeting deadline)
    (moved : { s with inlet := s.inlet.next.2 }.takeItem service s.inlet.next.1 = some m) :
    Did service now s .input m := by
  have missing : (∀ body, s.inlet.next.1 ≠ .frame body) →
      ∀ body, s.frame? = some body → service.admits body = false := by
    intro none body found
    cases item : s.inlet.next.1 <;> simp_all [frame?]
  cases item : s.inlet.next.1 with
  | pending => simp [takeItem, phase, item] at moved
  | frame body =>
    simp only [takeItem, phase, item, Option.some.injEq] at moved
    rw [← moved]
    have found : s.frame? = some body := by simp [frame?, phase, item]
    exact greet_did (c := { s with phase := .greeting deadline, inlet := s.inlet.next.2 }) phase rfl rfl found
  | failed failure =>
    simp only [takeItem, phase, item, Option.some.injEq] at moved
    rw [← moved]
    obtain ⟨registry, handles, ended, sent⟩ :=
      reject_eq (c := { s with phase := .greeting deadline, inlet := s.inlet.next.2 }) rfl service.registry .unframed
    exact .reject phase (missing (by simp [item])) registry handles ended sent
  | finished =>
    simp only [takeItem, phase, item, Option.some.injEq] at moved
    rw [← moved]
    exact .reject phase (missing (by simp [item])) (by simp [finish, abandon]) rfl rfl (fun _ => by simp [finish])

private theorem takeItem_of_serving {m : Moved} (phase : s.phase = .serving) (first : s.backlog = [])
    (moved : { s with inlet := s.inlet.next.2 }.takeItem service s.inlet.next.1 = some m) :
    Did service now s .input m := by
  cases item : s.inlet.next.1 with
  | pending => simp [takeItem, phase, item] at moved
  | frame body =>
    simp only [takeItem, phase, item, Option.some.injEq] at moved
    rw [← moved]
    have found : s.frame? = some body := by simp [frame?, phase, first, item]
    exact serve_did (c := { s with phase := .serving, inlet := s.inlet.next.2 }) phase rfl rfl found
  | failed failure =>
    simp only [takeItem, phase, item, Option.some.injEq] at moved
    rw [← moved]
    exact finish_did (c := { s with phase := .serving, inlet := s.inlet.next.2 }) phase rfl rfl _
  | finished =>
    simp only [takeItem, phase, item, Option.some.injEq] at moved
    rw [← moved]
    exact finish_did (c := { s with phase := .serving, inlet := s.inlet.next.2 }) phase rfl rfl _

private theorem takeItem_of_waiting {m : Moved} {h : Handle} {place : Registry.Place} {w : Barrier.Wait}
    (phase : s.phase = .waiting h place w)
    (moved : { s with inlet := s.inlet.next.2 }.takeItem service s.inlet.next.1 = some m) :
    Did service now s .input m := by
  cases item : s.inlet.next.1 with
  | pending => simp [takeItem, phase, item] at moved
  | frame body =>
    simp only [takeItem, phase, item, Option.some.injEq] at moved
    rw [← moved]
    exact putAside_did (c := { s with phase := .waiting h place w, inlet := s.inlet.next.2 }) phase rfl rfl body
  | failed failure =>
    simp only [takeItem, phase, item, Option.some.injEq] at moved
    rw [← moved]
    exact leave_did (c := { s with phase := .waiting h place w, inlet := s.inlet.next.2 }) phase rfl rfl _
  | finished =>
    simp only [takeItem, phase, item, Option.some.injEq] at moved
    rw [← moved]
    exact leave_did (c := { s with phase := .waiting h place w, inlet := s.inlet.next.2 }) phase rfl rfl _

/-- What is taken off the stream, when no frame that was put aside comes first. -/
private theorem takeItem_did {m : Moved}
    (moved : { s with inlet := s.inlet.next.2 }.takeItem service s.inlet.next.1 = some m)
    (first : s.phase = .serving → s.backlog = []) : Did service now s .input m := by
  cases phase : s.phase with
  | greeting deadline => exact takeItem_of_greeting phase moved
  | serving => exact takeItem_of_serving phase (first phase) moved
  | waiting h place w => exact takeItem_of_waiting phase moved
  | ended how => cases item : s.inlet.next.1 <;> simp [takeItem, phase, item] at moved

private theorem look_did {m : Moved} (moved : s.look service now = some m) : Did service now s .look m := by
  cases phase : s.phase with
  | ended how => simp [look, phase] at moved
  | serving => simp [look, phase] at moved
  | greeting deadline =>
    cases deadline with
    | none =>
      simp only [look, phase, Option.some.injEq] at moved
      rw [← moved]
      exact .begin phase
    | some deadline =>
      simp only [look, phase, Option.ite_none_right_eq_some, Option.some.injEq] at moved
      obtain ⟨⟨-, pending⟩, rfl⟩ := moved
      obtain ⟨registry, handles, ended, sent⟩ := reject_eq
        (c := { s with phase := .greeting deadline, inlet := s.inlet.next.2 }) rfl service.registry
        (.timedOut service.config.handshakeTimeout)
      exact .reject phase (by simp [frame?, phase, pending]) registry handles ended sent
  | waiting h place w =>
    simp only [look, phase, Option.ite_none_left_eq_some, Option.some.injEq] at moved
    obtain ⟨-, rfl⟩ := moved
    cases there : service.registry.barrier? place with
    | none => exact .stray phase there
    | some b =>
      unfold pollWait
      rcases polled : b.poll now w with ⟨b', poll, meter⟩
      cases poll with
      | pending w' =>
        simp only [there, polled]
        exact .pending phase there (by rw [polled]) (by rw [polled]) rfl rfl rfl
      | done result =>
        simp only [there, polled]
        obtain ⟨registry, handles, idle, sent⟩ := reply_eq (s := { s with phase := .serving })
          (service.registry.put place b') (responseOf result) meter rfl
        exact .finish phase there (by rw [polled]) (by rw [polled]; exact registry) handles idle sent

theorem turn_did {t : Turn} {m : Moved} (moved : s.turn service now t = some m) : Did service now s t m := by
  cases t with
  | look => exact look_did moved
  | input =>
    simp only [turn, takeInput] at moved
    split at moved
    · rename_i body backlog serving aside
      rw [← Option.some.inj moved]
      have found : s.frame? = some body := by simp [frame?, serving, aside]
      exact serve_did (c := { s with backlog }) serving serving rfl found
    · rename_i other
      refine takeItem_did moved fun serving => ?_
      cases aside : s.backlog with
      | nil => rfl
      | cons body backlog => exact absurd aside (other body backlog serving)

theorem hasEnded_of_ended {how : Ending} (ended : s.phase = .ended how) : s.hasEnded = true := by
  simp [hasEnded, ended]

theorem live_of_serving (serving : s.phase = .serving) : s.hasEnded = false := by
  simp [hasEnded, serving]

theorem live_of_waiting {h : Handle} {place : Registry.Place} {w : Barrier.Wait}
    (waiting : s.phase = .waiting h place w) : s.hasEnded = false := by
  simp [hasEnded, waiting]

/-- A connection that has ended does nothing. -/
theorem turn_of_ended {t : Turn} (ended : s.hasEnded = true) : s.turn service now t = none := by
  cases moved : s.turn service now t with
  | none => rfl
  | some m =>
    unfold hasEnded at ended
    cases turn_did moved <;> simp_all

end

end Session
end Lockstep
