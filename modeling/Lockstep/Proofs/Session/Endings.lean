import Lockstep.Proofs.Session.Bound

namespace Lockstep.Session

/-- The ends that a connection comes to where barriers have parties. -/
def Ending.Regular : Ending → Prop
  | .impossible => False
  | .unwritable f => f = Frame.Failure.oversized.fault ∨ f = Frame.brokenPipe
  | _ => True

/-- The ends of connections that were not rejected. -/
def Ending.Admitted : Ending → Prop
  | .rejected _ => False
  | how => how.Regular

theorem Ending.Admitted.regular {how : Ending} (admitted : how.Admitted) : how.Regular := by
  cases how with
  | rejected why => exact admitted.elim
  | _ => exact admitted

/-- An end is reported as what it is. -/
theorem Ending.Regular.kind {how : Ending} {f : Fault} (regular : how.Regular) (reported : how.fault? = some f) :
    f.kind = .protocolViolation ∨ f.kind = .connectionLost ∨ f.kind = .ioError ∨
      f.kind = .authenticationFailed ∧ ∃ why, how = .rejected why := by
  cases how with
  | closed => cases reported
  | impossible => cases reported
  | rejected why =>
    cases reported
    exact .inr (.inr (.inr ⟨rfl, why, rfl⟩))
  | lost h =>
    cases reported
    exact .inr (.inl rfl)
  | malformed why =>
    cases reported
    exact .inl rfl
  | overrun h =>
    cases reported
    exact .inl rfl
  | unframed failure =>
    cases reported
    cases failure <;> exact .inr (.inr (.inl rfl))
  | unwritable fault =>
    cases reported
    rcases regular with rfl | rfl
    · exact .inr (.inr (.inl rfl))
    · exact .inr (.inl rfl)

/-- If the connection has ended after this, then in such a way. -/
def Moved.Ends (m : Moved) (Good : Ending → Prop) : Prop :=
  ∀ how, m.session.phase = .ended how → Good how

variable {service : Service} {now : Nat} {s c : Session} {t : Turn} {m : Moved} {r : Registry}

private theorem admitted_of_writeFault? {response : Response} {f : Fault} (fault : c.writeFault? response = some f) :
    (Ending.unwritable f).Admitted := by
  unfold writeFault? at fault
  split at fault
  · exact .inl (Option.some.inj fault).symm
  · split at fault
    · exact .inr (Option.some.inj fault).symm
    · cases fault

private theorem Moved.Ends.of_ended {Good : Ending → Prop} {how : Ending} (ended : m.session.phase = .ended how)
    (good : Good how) : m.Ends Good := by
  intro how' ended'
  rw [ended, Phase.ended.injEq] at ended'
  rwa [← ended']

private theorem Moved.Ends.of_live {Good : Ending → Prop} (live : m.session.hasEnded = false) : m.Ends Good := by
  intro how ended
  rw [hasEnded_of_ended ended] at live
  cases live

private theorem reply_ends (live : c.hasEnded = false) (r : Registry) (response : Response) (meter : Meter) :
    (c.reply r response meter).Ends Ending.Admitted := by
  unfold reply
  cases fault : c.writeFault? response with
  | some f => exact .of_ended rfl (admitted_of_writeFault? fault)
  | none => exact .of_live live

private theorem finishWith_ends (how : Ending) (r : Registry) (response : Response) (good : how.Admitted) :
    (c.finishWith r response how).Ends Ending.Admitted := by
  unfold finishWith
  cases fault : c.writeFault? response with
  | some f => exact .of_ended rfl (admitted_of_writeFault? fault)
  | none => exact .of_ended rfl good

-- From here on no response is to be computed.
attribute [local irreducible] reply finishWith

/-- A request ends no connection, as long as its answer can be written. -/
private theorem dispatch_ends (bound : c.Bound service.registry) (serving : c.phase = .serving)
    (positive : 0 < service.registry.options.parties) (request : Request) :
    (c.dispatch service request).Ends Ending.Admitted := by
  have live := live_of_serving serving
  have onBarrier : ∀ (h : Handle) (f : Registry.Place → Moved),
      (∀ key place, c.binding? h = some (key, place) → (f place).Ends Ending.Admitted) →
        (c.withBarrier service.registry h f).Ends Ending.Admitted := by
    intro h f does
    unfold withBarrier
    cases found : c.binding? h with
    | none => exact reply_ends live _ _ _
    | some e => exact does e.1 e.2 found
  cases request with
  | hello secret => exact reply_ends live _ _ _
  | getBarrier key =>
    simp only [dispatch, issue]
    have issued : ∀ place r response meter,
        (({ c with handles := c.handles.push (key, place) } : Session).reply r response meter).Ends Ending.Admitted :=
      fun place => reply_ends (live_of_serving serving)
    rcases service.registry.getOrCreate_cases key with ⟨place, _, got⟩ | ⟨_, _, got⟩ | ⟨_, none, _⟩
    · rw [got]
      exact issued place _ _ _
    · rw [got]
      exact issued service.registry.size _ _ _
    · omega
  | wait h timeout =>
    exact onBarrier h _ fun _ _ _ => .of_live rfl
  | status h =>
    refine onBarrier h _ fun key place found => ?_
    simp only [Registry.barrier?_of_find? (bound.find? found)]
    exact reply_ends live _ _ _
  | abort h => exact onBarrier h _ fun key place _ => reply_ends live _ _ _
  | reset h => exact onBarrier h _ fun key place _ => reply_ends live _ _ _

private theorem serve_ends (bound : c.Bound service.registry) (serving : c.phase = .serving)
    (positive : 0 < service.registry.options.parties) (body : Bytes) :
    (c.serve service body).Ends Ending.Admitted := by
  unfold serve
  cases Request.decode? body with
  | some request => exact dispatch_ends bound serving positive request
  | none => exact finishWith_ends _ _ _ trivial

private theorem pollWait_ends {h : Handle} {place : Registry.Place} (there : service.registry.barrier? place ≠ none)
    (w : Barrier.Wait) : (c.pollWait service now h place w).Ends Ending.Admitted := by
  unfold pollWait
  cases found : service.registry.barrier? place with
  | none => exact absurd found there
  | some b =>
    rcases polled : b.poll now w with ⟨b', poll, meter⟩
    cases poll with
    | pending w' =>
      simp only [polled]
      exact .of_live rfl
    | done result =>
      simp only [polled]
      exact reply_ends rfl _ _ _

private theorem putAside_ends {h : Handle} (live : c.hasEnded = false) (r : Registry) (body : Bytes) :
    (c.putAside r h body).Ends Ending.Admitted := by
  unfold putAside
  split
  · exact finishWith_ends _ _ _ trivial
  · exact .of_live live

/-- A first frame that does not show the secret, or none in time, rejects the connection. -/
theorem greeting_ends {deadline : Option Nat} (greeting : s.phase = .greeting deadline)
    (moved : s.turn service now t = some m) :
    m.Ends Ending.Regular ∧ (m.Ends Ending.Admitted ∨ m.sent = none ∨ m.sent = some rejection) := by
  have rejected : ∀ (c : Session) why, (c.reject service.registry why).Ends Ending.Regular ∧
      ((c.reject service.registry why).Ends Ending.Admitted ∨ (c.reject service.registry why).sent = none ∨
        (c.reject service.registry why).sent = some rejection) := by
    intro c why
    refine ⟨.of_ended rfl trivial, .inr ?_⟩
    unfold reject
    split
    · exact .inl rfl
    · exact .inr rfl
  cases t with
  | look =>
    cases deadline with
    | none =>
      simp only [turn, look, greeting, Option.some.injEq] at moved
      rw [← moved]
      exact ⟨.of_live rfl, .inr (.inl rfl)⟩
    | some deadline =>
      simp only [turn, look, greeting, Option.ite_none_right_eq_some, Option.some.injEq] at moved
      rw [← moved.2]
      exact rejected _ _
  | input =>
    simp only [turn, takeInput, greeting, takeItem] at moved
    cases item : s.inlet.next.1 with
    | pending => simp [item] at moved
    | failed failure =>
      simp only [item, Option.some.injEq] at moved
      rw [← moved]
      exact rejected _ _
    | finished =>
      simp only [item, Option.some.injEq] at moved
      rw [← moved]
      exact ⟨.of_ended rfl trivial, .inr (.inl rfl)⟩
    | frame body =>
      simp only [item, Option.some.injEq] at moved
      rw [← moved]
      unfold greet
      cases Request.decode? body with
      | none => exact rejected _ _
      | some request =>
        cases request with
        | hello secret =>
          by_cases verified : service.secret.verify secret = true
          · have ends := reply_ends (c := { s with phase := .serving, inlet := s.inlet.next.2 }) rfl service.registry
              (.welcome service.config.parties) {}
            simp only [verified, if_true]
            exact ⟨fun how ended => (ends how ended).regular, .inl ends⟩
          · simp only [verified]
            exact rejected _ _
        | _ => exact rejected _ _

/-- Once the secret was shown a connection is not rejected any more. -/
theorem admitted_ends (bound : s.Bound service.registry) (positive : 0 < service.registry.options.parties)
    (greeted : ∀ deadline, s.phase ≠ .greeting deadline) (moved : s.turn service now t = some m) :
    m.Ends Ending.Admitted := by
  cases phase : s.phase with
  | greeting deadline => exact absurd phase (greeted deadline)
  | ended how =>
    rw [turn_of_ended (hasEnded_of_ended phase)] at moved
    cases moved
  | serving =>
    cases t with
    | look => simp [turn, look, phase] at moved
    | input =>
      cases aside : s.backlog with
      | cons body backlog =>
        simp only [turn, takeInput, phase, aside, Option.some.injEq] at moved
        rw [← moved]
        have bound' : Bound service.registry { s with phase := .serving, backlog } := bound.congr phase.symm rfl
        exact serve_ends bound' rfl positive body
      | nil =>
        simp only [turn, takeInput, phase, aside, takeItem] at moved
        cases item : s.inlet.next.1 with
        | pending => simp [item] at moved
        | frame body =>
          simp only [item, Option.some.injEq] at moved
          rw [← moved]
          have bound' : Bound service.registry { s with phase := .serving, inlet := s.inlet.next.2, backlog := [] } :=
            bound.congr phase.symm rfl
          exact serve_ends bound' rfl positive body
        | failed failure =>
          simp only [item, Option.some.injEq] at moved
          rw [← moved]
          exact .of_ended rfl trivial
        | finished =>
          simp only [item, Option.some.injEq] at moved
          rw [← moved]
          exact .of_ended rfl trivial
  | waiting h place w =>
    cases t with
    | look =>
      simp only [turn, look, phase, Option.ite_none_left_eq_some, Option.some.injEq] at moved
      rw [← moved.2]
      exact pollWait_ends (bound.ne_none phase) w
    | input =>
      simp only [turn, takeInput, phase, takeItem] at moved
      cases item : s.inlet.next.1 with
      | pending => simp [item] at moved
      | frame body =>
        simp only [item, Option.some.injEq] at moved
        rw [← moved]
        exact putAside_ends rfl _ _
      | failed failure =>
        simp only [item, Option.some.injEq] at moved
        rw [← moved]
        exact .of_ended rfl trivial
      | finished =>
        simp only [item, Option.some.injEq] at moved
        rw [← moved]
        exact .of_ended rfl trivial

/-- A turn leaves a connection waiting for the secret only if it was its first, and there was no first frame. -/
theorem begun_of_greeting (bound : s.Bound service.registry) (moved : s.turn service now t = some m)
    {deadline : Option Nat} (greeting : m.session.phase = .greeting deadline) :
    s.phase = .greeting none ∧ t = .look ∧ m = s.begin service now := by
  cases turn_did moved with
  | begin fresh => exact ⟨fresh, rfl, rfl⟩
  | welcome _ _ _ _ _ idle => exact absurd greeting (idle.ne_greeting deadline)
  | reject _ _ _ _ ended => simp [ended] at greeting
  | answer _ _ _ idle => exact absurd greeting (idle.ne_greeting deadline)
  | issue _ _ _ idle => exact absurd greeting (idle.ne_greeting deadline)
  | command _ _ _ _ _ idle => exact absurd greeting (idle.ne_greeting deadline)
  | await _ _ _ _ _ _ waiting => simp [waiting] at greeting
  | putAside waiting _ _ phase => simp [phase, waiting] at greeting
  | leave _ _ _ ended => simp [ended] at greeting
  | pending _ _ _ _ _ waiting => simp [waiting] at greeting
  | finish _ _ _ _ _ idle => exact absurd greeting (idle.ne_greeting deadline)
  | stray waiting missing => exact absurd missing (bound.ne_none waiting)

end Lockstep.Session
