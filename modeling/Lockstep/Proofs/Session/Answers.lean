import Lockstep.Proofs.Frame.Stream
import Lockstep.Proofs.Session.Bound

namespace Lockstep

/-- The key that a handle stands for where these keys were asked for. -/
def keyOf? (keys : List PartitionKey) (h : Handle) : Option PartitionKey :=
  if h = 0 then none else keys[h - 1]?

namespace Registry

/-- Does something to the barrier of a key, if there is one. -/
def act (r : Registry) (key : PartitionKey) (f : Barrier → Barrier × Meter) : Registry :=
  match r.find? key with
  | some place => (r.update place f).1
  | none => r

end Registry

namespace Request

/-- The keys that a request asks for. -/
def issues : Request → List PartitionKey
  | .getBarrier key => [key]
  | _ => []

/-- The answer that a request gets at once, where these keys were asked for before: none if it is a wait on a
    barrier. -/
def answer? (r : Registry) (keys : List PartitionKey) : Request → Option Response
  | .hello _ => some (.ofFault Session.alreadyAuthenticated)
  | .getBarrier _ => some (.handle (keys.length + 1) r.options.parties)
  | .wait h _ => on h fun _ => none
  | .status h => on h fun key => some (.status (r.barrierFor key).status)
  | .abort h | .reset h => on h fun _ => some .ok
where
  on (h : Handle) (answer? : PartitionKey → Option Response) : Option Response :=
    match keyOf? keys h with
    | some key => answer? key
    | none => some (.ofFault (Session.unknownHandle h))

/-- What a request does to the barriers when it is taken. -/
def effect (r : Registry) (keys : List PartitionKey) : Request → Registry
  | .getBarrier key => (r.getOrCreate key).1
  | .abort h => on h Barrier.abort
  | .reset h => on h Barrier.reset
  | _ => r
where
  on (h : Handle) (f : Barrier → Barrier × Meter) : Registry :=
    match keyOf? keys h with
    | some key => r.act key f
    | none => r

end Request

namespace Session

/-- The keys that were asked for: a handle is the number of one of them. -/
def keys (s : Session) : List PartitionKey :=
  s.handles.toList.map (·.1)

variable {service : Service} {now : Nat} {s c : Session} {r : Registry}

theorem binding?_keyOf (s : Session) (h : Handle) : keyOf? s.keys h = (s.binding? h).map (·.1) := by
  unfold keyOf? binding? keys
  split
  · rfl
  · simp

theorem keyOf?_of_binding {h : Handle} {key : PartitionKey} {place : Registry.Place}
    (found : s.binding? h = some (key, place)) : keyOf? s.keys h = some key := by
  rw [binding?_keyOf, found, Option.map_some]

theorem keyOf?_of_unbound {h : Handle} (missing : s.binding? h = none) : keyOf? s.keys h = none := by
  rw [binding?_keyOf, missing, Option.map_none]

/-- A response is written and nothing else happens, or it cannot be written and the connection ends. -/
theorem reply_cases (s : Session) (r : Registry) (response : Response) (meter : Meter) :
    (s.writeFault? response = none ∧
        s.reply r response meter = { session := s, registry := r, sent := some response, meter }) ∨
      (s.writeFault? response ≠ none ∧ (s.reply r response meter).sent = none ∧
        ∃ how, (s.reply r response meter).session.phase = .ended how) := by
  unfold reply
  cases fault : s.writeFault? response with
  | none => exact .inl ⟨rfl, rfl⟩
  | some f => exact .inr ⟨by simp, rfl, _, rfl⟩

-- From here on what was written is known by `reply_cases` and `finishWith_eq` alone; no response is to be computed.
attribute [local irreducible] reply finishWith

/-- What carrying out a request can come to. -/
inductive Carried (service : Service) (c : Session) (request : Request) (m : Moved) : Prop
  | answered (response : Response) : request.answer? service.registry c.keys = some response →
      m.sent = some response → m.session = { c with handles := m.session.handles } →
      m.session.keys = c.keys ++ request.issues → m.registry = request.effect service.registry c.keys →
      Carried service c request m
  /-- A wait begins. -/
  | awaited (h : Handle) (timeout : Option Nat) (key : PartitionKey) (place : Registry.Place) :
      request = .wait h timeout → c.binding? h = some (key, place) → m.sent = none →
      m.session = { c with
        phase := .waiting h place { timeout := timeout.orElse fun _ => service.config.waitTimeout } } →
      m.registry = service.registry → Carried service c request m
  /-- There is no way to answer. -/
  | failed (how : Ending) : m.sent = none → m.session.phase = .ended how →
      (service.registry.options.parties = 0 ∨
        ∃ response, request.answer? service.registry c.keys = some response ∧ c.writeFault? response ≠ none) →
      Carried service c request m

/-- A request that gets an answer and changes nothing. -/
private theorem carried_reply {request : Request} {response : Response} (meter : Meter)
    (answer : request.answer? service.registry c.keys = some response) (issues : request.issues = [])
    (effect : request.effect service.registry c.keys = r) :
    Carried service c request (c.reply r response meter) := by
  rcases c.reply_cases r response meter with ⟨_, done⟩ | ⟨fault, sent, how, ended⟩
  · rw [done]
    exact .answered response answer rfl rfl (by rw [issues, List.append_nil]) effect.symm
  · exact .failed how sent ended (.inr ⟨response, answer, fault⟩)

/-- The key gets the next handle, whether it is new or not. -/
private theorem carried_issued {key : PartitionKey} {place : Registry.Place} {r : Registry} (meter : Meter)
    (got : service.registry.getOrCreate key = (r, some place, meter)) :
    Carried service c (.getBarrier key)
      (({ c with handles := c.handles.push (key, place) } : Session).reply r
        (.handle (c.handles.push (key, place)).size r.options.parties) meter) := by
  have options : r.options = service.registry.options := (Registry.getOrCreate_some got).1.options
  have answer : (Request.getBarrier key).answer? service.registry c.keys =
      some (.handle (c.handles.push (key, place)).size r.options.parties) := by
    simp [Request.answer?, keys, options]
  rcases reply_cases { c with handles := c.handles.push (key, place) } r
    (.handle (c.handles.push (key, place)).size r.options.parties) meter with ⟨_, done⟩ | ⟨fault, sent, how, ended⟩
  · rw [done]
    refine .answered _ answer rfl rfl ?_ ?_
    · simp [keys, Request.issues]
    · simp [Request.effect, got]
  · exact .failed how sent ended (.inr ⟨_, answer, fault⟩)

private theorem carried_issue (key : PartitionKey) :
    Carried service c (.getBarrier key) (c.issue service.registry key) := by
  unfold issue
  rcases service.registry.getOrCreate_cases key with ⟨place, _, got⟩ | ⟨_, _, got⟩ | ⟨_, none, got⟩
  · simpa only [got] using carried_issued {} got
  · simpa only [got] using carried_issued { created := 1 } got
  · rw [got]
    exact .failed .impossible rfl rfl (.inl none)

/-- A request on a handle is carried out on the barrier of its key, or it is told that there is none. -/
private theorem carried_withBarrier {request : Request} {h : Handle} {f : Registry.Place → Moved}
    (issues : request.issues = [])
    (unknown : keyOf? c.keys h = none → request.answer? service.registry c.keys = some (.ofFault (unknownHandle h)) ∧
      request.effect service.registry c.keys = service.registry)
    (does : ∀ key place, c.binding? h = some (key, place) → Carried service c request (f place)) :
    Carried service c request (c.withBarrier service.registry h f) := by
  unfold withBarrier
  cases found : c.binding? h with
  | none =>
    obtain ⟨answer, effect⟩ := unknown (keyOf?_of_unbound found)
    exact carried_reply {} answer issues effect
  | some e => exact does e.1 e.2 found

private theorem dispatch_carried (bound : Bound service.registry c) (request : Request) :
    Carried service c request (c.dispatch service request) := by
  cases request with
  | hello secret => exact carried_reply {} rfl rfl rfl
  | getBarrier key => exact carried_issue key
  | wait h timeout =>
    refine carried_withBarrier rfl (fun unknown => ?_) fun key place found => ?_
    · exact ⟨by simp [Request.answer?, Request.answer?.on, unknown], rfl⟩
    · exact .awaited h timeout key place rfl found rfl rfl rfl
  | status h =>
    refine carried_withBarrier rfl (fun unknown => ?_) fun key place found => ?_
    · exact ⟨by simp [Request.answer?, Request.answer?.on, unknown], rfl⟩
    · simp only [Registry.barrier?_of_find? (bound.find? found)]
      exact carried_reply {} (by simp [Request.answer?, Request.answer?.on, keyOf?_of_binding found]) rfl rfl
  | abort h =>
    refine carried_withBarrier rfl (fun unknown => ?_) fun key place found => ?_
    · exact ⟨by simp [Request.answer?, Request.answer?.on, unknown],
        by simp [Request.effect, Request.effect.on, unknown]⟩
    · let done := service.registry.update place Barrier.abort
      show Carried service c _ (c.reply done.1 .ok done.2)
      refine carried_reply _ ?_ rfl ?_
      · simp [Request.answer?, Request.answer?.on, keyOf?_of_binding found]
      · simp [Request.effect, Request.effect.on, keyOf?_of_binding found, Registry.act, bound.find? found, done]
  | reset h =>
    refine carried_withBarrier rfl (fun unknown => ?_) fun key place found => ?_
    · exact ⟨by simp [Request.answer?, Request.answer?.on, unknown],
        by simp [Request.effect, Request.effect.on, unknown]⟩
    · let done := service.registry.update place Barrier.reset
      show Carried service c _ (c.reply done.1 .ok done.2)
      refine carried_reply _ ?_ rfl ?_
      · simp [Request.answer?, Request.answer?.on, keyOf?_of_binding found]
      · simp [Request.effect, Request.effect.on, keyOf?_of_binding found, Registry.act, bound.find? found, done]

/-- The session without the item that the next turn of input takes. -/
def taken (s : Session) : Session :=
  match s.phase, s.backlog with
  | .serving, _ :: backlog => { s with backlog }
  | _, _ => { s with inlet := s.inlet.next.2 }

@[simp] theorem phase_taken (s : Session) : s.taken.phase = s.phase := by
  unfold taken
  split <;> rfl

@[simp] theorem handles_taken (s : Session) : s.taken.handles = s.handles := by
  unfold taken
  split <;> rfl

@[simp] theorem keys_taken (s : Session) : s.taken.keys = s.keys := by
  simp [keys]

@[simp] theorem gone_taken (s : Session) : s.taken.gone = s.gone := by
  unfold taken
  split <;> rfl

@[simp] theorem writeFault?_taken (s : Session) (response : Response) :
    s.taken.writeFault? response = s.writeFault? response := by
  simp [writeFault?]

/-- What a turn comes to for the peer. -/
inductive Talk (service : Service) (now : Nat) (s : Session) : Turn → Moved → Prop
  /-- The secret was shown, and the peer is told so. -/
  | welcomed {m deadline body} : s.phase = .greeting deadline → s.frame? = some body → service.admits body = true →
      m.sent = some (.welcome service.config.parties) → m.session = { s.taken with phase := .serving } →
      m.registry = service.registry → Talk service now s .input m
  /-- The connection ends before the peer is told that it showed the secret. -/
  | refused {t m deadline how} : s.phase = .greeting deadline →
      (m.sent = none ∨ m.sent = some rejection ∧ ∀ body, s.frame? = some body → service.admits body = false) →
      m.session.phase = .ended how → Talk service now s t m
  /-- The session runs for the first time, and no first frame is there. -/
  | begun : s.phase = .greeting none → Talk service now s .look (s.begin service now)
  | served {m body request} : s.phase = .serving → s.frame? = some body → Request.decode? body = some request →
      Carried service s.taken request m → Talk service now s .input m
  /-- The frame holds no request, and the connection ends. -/
  | malformed {m body how} : s.phase = .serving → s.frame? = some body → Request.decode? body = none →
      (m.sent = none ∨ m.sent = some (.ofFault (malformedFrame (service.complaint body)))) →
      m.session.phase = .ended how →
      Talk service now s .input m
  /-- The stream ends, or holds no frame, while no wait is open. -/
  | closing {m how} : s.phase = .serving → s.frame? = none → s.backlog = [] → m.sent = none →
      m.session.phase = .ended how → s.inlet.next.1 ≠ .pending → Talk service now s .input m
  /-- A frame is put aside. -/
  | aside {m h place w body} : s.phase = .waiting h place w → s.inlet.next.1 = .frame body → m.sent = none →
      m.session = { s.taken with backlog := s.backlog ++ [body] } → m.registry = service.registry →
      Talk service now s .input m
  /-- The connection ends while a wait is open. -/
  | left {m h place w how} : s.phase = .waiting h place w →
      (m.sent = none ∨ ∃ message, m.sent = some (.error .protocolViolation message)) → m.session.phase = .ended how →
      s.inlet.next.1 ≠ .pending → (∀ body, s.inlet.next.1 = .frame body → maxBacklog ≤ s.backlog.length) →
      Talk service now s .input m
  /-- The wait is polled and still open. -/
  | pending {m h place w b w'} : s.phase = .waiting h place w → service.registry.barrier? place = some b →
      (b.poll now w).2.1 = .pending w' → m.sent = none → m.session = { s with phase := .waiting h place w' } →
      m.registry = service.registry.put place (b.poll now w).1 → Talk service now s .look m
  /-- The wait is polled and over, and the peer is told how it ended. -/
  | returned {m h place w b result} : s.phase = .waiting h place w → service.registry.barrier? place = some b →
      (b.poll now w).2.1 = .done result → m.sent = some (responseOf result) →
      m.session = { s with phase := .serving } → m.registry = service.registry.put place (b.poll now w).1 →
      Talk service now s .look m
  /-- The wait is over, and there is no way to tell. -/
  | unheard {m h place w b result how} : s.phase = .waiting h place w → service.registry.barrier? place = some b →
      (b.poll now w).2.1 = .done result → m.sent = none → m.session.phase = .ended how →
      s.writeFault? (responseOf result) ≠ none → Talk service now s .look m

/-- Whoever is rejected is told no more than that. -/
private theorem refused_talk {t : Turn} {deadline : Option Nat} (greeting : s.phase = .greeting deadline) (c : Session)
    (why : Rejection) (wrong : ∀ body, s.frame? = some body → service.admits body = false) :
    Talk service now s t (c.reject service.registry why) := by
  refine .refused greeting ?_ rfl
  unfold reject
  split
  · exact .inl rfl
  · exact .inr ⟨rfl, wrong⟩

private theorem greet_talk {deadline : Option Nat} (greeting : s.phase = .greeting deadline) {body : Bytes}
    (first : s.frame? = some body) : Talk service now s .input (s.taken.greet service body) := by
  have wrong : service.admits body = false → ∀ body', s.frame? = some body' → service.admits body' = false := by
    intro refused body' first'
    rw [first, Option.some.injEq] at first'
    rw [← first']
    exact refused
  unfold greet
  cases decoded : Request.decode? body with
  | none => exact refused_talk greeting _ _ (wrong (by simp [Service.admits, decoded]))
  | some request =>
    cases request with
    | hello secret =>
      by_cases verified : service.secret.verify secret = true
      · simp only [verified, if_true]
        rcases reply_cases { s.taken with phase := .serving } service.registry (.welcome service.config.parties) {} with
          ⟨_, done⟩ | ⟨_, sent, how, ended⟩
        · rw [done]
          exact .welcomed greeting first (by simp [Service.admits, decoded, verified]) rfl rfl rfl
        · exact .refused greeting (.inl sent) ended
      · simp only [verified]
        exact refused_talk greeting _ _ (wrong (by simp [Service.admits, decoded, verified]))
    | _ => exact refused_talk greeting _ _ (wrong (by simp [Service.admits, decoded]))

private theorem serve_talk (bound : Bound service.registry s) (serving : s.phase = .serving) {body : Bytes}
    (found : s.frame? = some body) : Talk service now s .input (s.taken.serve service body) := by
  unfold serve
  cases read : Request.decode? body with
  | some request =>
    exact .served serving found read (dispatch_carried (bound.congr s.phase_taken s.handles_taken) request)
  | none =>
    obtain ⟨_, _, ⟨how, ended⟩, sent⟩ := finishWith_eq s.taken service.registry
      (.ofFault (malformedFrame (service.complaint body))) (.malformed (service.complaint body))
    exact .malformed serving found read sent ended

private theorem putAside_talk {h : Handle} {place : Registry.Place} {w : Barrier.Wait}
    (waiting : s.phase = .waiting h place w) {body : Bytes} (item : s.inlet.next.1 = .frame body) :
    Talk service now s .input (s.taken.putAside service.registry h body) := by
  have same : s.taken = { s with inlet := s.inlet.next.2 } := by simp [taken, waiting]
  have backlog : s.taken.backlog = s.backlog := by rw [same]
  unfold putAside
  rw [backlog]
  split
  · rename_i full
    obtain ⟨_, _, ⟨how, ended⟩, sent⟩ := finishWith_eq s.taken service.registry
      (.ofFault ((Ending.overrun h).fault?.getD alreadyAuthenticated)) (.overrun h)
    refine .left waiting (sent.imp_right fun told => ⟨_, told⟩) ended ?_ fun _ _ => full
    simp [item]
  · exact .aside waiting item rfl rfl rfl

private theorem takeItem_talk {m : Moved} (bound : Bound service.registry s)
    (first : s.phase = .serving → s.backlog = [])
    (moved : { s with inlet := s.inlet.next.2 }.takeItem service s.inlet.next.1 = some m) :
    Talk service now s .input m := by
  have same : { s with inlet := s.inlet.next.2 } = s.taken := by
    unfold taken
    split
    · rename_i serving aside
      rw [first serving] at aside
      cases aside
    · rfl
  rw [same] at moved
  unfold takeItem at moved
  rw [phase_taken] at moved
  cases item : s.inlet.next.1 with
  | pending => simp [item] at moved
  | frame body =>
    cases known : s.phase with
    | greeting deadline =>
      simp only [known, item, Option.some.injEq] at moved
      rw [← moved]
      exact greet_talk known (by simp [frame?, known, item])
    | serving =>
      simp only [known, item, Option.some.injEq] at moved
      rw [← moved]
      exact serve_talk bound known (by simp [frame?, known, first known, item])
    | waiting h place w =>
      simp only [known, item, Option.some.injEq] at moved
      rw [← moved]
      exact putAside_talk known item
    | ended how => simp [known, item] at moved
  | failed failure =>
    cases known : s.phase with
    | greeting deadline =>
      simp only [known, item, Option.some.injEq] at moved
      rw [← moved]
      exact refused_talk known _ _ (by simp [frame?, known, item])
    | serving =>
      simp only [known, item, Option.some.injEq] at moved
      rw [← moved]
      exact .closing known (by simp [frame?, known, first known, item]) (first known) rfl rfl (by simp [item])
    | waiting h place w =>
      simp only [known, item, Option.some.injEq] at moved
      rw [← moved]
      exact .left known (.inl rfl) rfl (by simp [item]) (by simp [item])
    | ended how => simp [known, item] at moved
  | finished =>
    cases known : s.phase with
    | greeting deadline =>
      simp only [known, item, Option.some.injEq] at moved
      rw [← moved]
      exact .refused known (.inl rfl) rfl
    | serving =>
      simp only [known, item, Option.some.injEq] at moved
      rw [← moved]
      exact .closing known (by simp [frame?, known, first known, item]) (first known) rfl rfl (by simp [item])
    | waiting h place w =>
      simp only [known, item, Option.some.injEq] at moved
      rw [← moved]
      exact .left known (.inl rfl) rfl (by simp [item]) (by simp [item])
    | ended how => simp [known, item] at moved

private theorem look_talk {m : Moved} (moved : s.look service now = some m) (bound : Bound service.registry s) :
    Talk service now s .look m := by
  cases phase : s.phase with
  | ended how => simp [look, phase] at moved
  | serving => simp [look, phase] at moved
  | greeting deadline =>
    cases deadline with
    | none =>
      simp only [look, phase, Option.some.injEq] at moved
      rw [← moved]
      exact .begun phase
    | some deadline =>
      simp only [look, phase, Option.ite_none_right_eq_some, Option.some.injEq] at moved
      obtain ⟨⟨_, pending⟩, rfl⟩ := moved
      exact refused_talk phase _ _ (by simp [frame?, phase, pending])
  | waiting h place w =>
    simp only [look, phase, Option.ite_none_left_eq_some, Option.some.injEq] at moved
    obtain ⟨_, rfl⟩ := moved
    cases there : service.registry.barrier? place with
    | none => exact absurd there (bound.ne_none phase)
    | some b =>
      unfold pollWait
      rcases polled : b.poll now w with ⟨b', poll, meter⟩
      cases poll with
      | pending w' =>
        simp only [there, polled]
        exact .pending phase there (by rw [polled]) rfl rfl (by rw [polled])
      | done result =>
        simp only [there, polled]
        rcases reply_cases { s with phase := .serving } (service.registry.put place b') (responseOf result) meter with
          ⟨_, done⟩ | ⟨fault, sent, how, ended⟩
        · rw [done]
          exact .returned phase there (by rw [polled]) rfl rfl (by rw [polled])
        · exact .unheard phase there (by rw [polled]) sent ended fault

/-- A wait is over, and its barrier stays as it was. -/
theorem look_over {h : Handle} {place : Registry.Place} {w : Barrier.Wait} {b : Barrier} {result : Barrier.Result}
    {meter : Meter} (waiting : s.phase = .waiting h place w) (there : service.registry.barrier? place = some b)
    (polled : b.poll now w = (b, .done result, meter)) :
    s.turn service now .look =
      some ({ s with phase := .serving }.reply service.registry (responseOf result) meter) := by
  obtain ⟨_, _, idle, _⟩ := reply_eq (s := { s with phase := .serving }) service.registry (responseOf result) meter rfl
  simp only [turn, look, waiting, pollWait, there, polled, Registry.put_self there]
  exact if_neg (idle.ne_waiting h place w)

theorem turn_talk {t : Turn} {m : Moved} (bound : Bound service.registry s) (moved : s.turn service now t = some m) :
    Talk service now s t m := by
  cases t with
  | look => exact look_talk moved bound
  | input =>
    simp only [turn, takeInput] at moved
    split at moved
    · rename_i body backlog serving aside
      have same : { s with backlog } = s.taken := by simp [taken, serving, aside]
      rw [same, Option.some.injEq] at moved
      rw [← moved]
      exact serve_talk bound serving (by simp [frame?, serving, aside])
    · rename_i other
      refine takeItem_talk bound (fun serving => ?_) moved
      cases aside : s.backlog with
      | nil => rfl
      | cons body backlog => exact absurd aside (other body backlog serving)

end Session
end Lockstep
