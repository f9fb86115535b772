import Lockstep.Proofs.Barrier.Gauge
import Lockstep.Proofs.Server.Lines

namespace Lockstep

namespace Session

variable {service : Service} {now : Nat} {s c : Session} {t : Turn} {m : Moved} {r : Registry}

/-- The connection has a wait open that has arrived. -/
def hasArrived (s : Session) : Bool :=
  match s.phase with
  | .waiting _ _ w => w.arrival.isSome
  | _ => false

private theorem hasArrived_of_idle (idle : ∀ h place w, s.phase ≠ .waiting h place w) : s.hasArrived = false := by
  unfold hasArrived
  split
  · rename_i h place w waiting
    exact absurd waiting (idle h place w)
  · rfl

private theorem hasArrived_congr (phase : c.phase = s.phase) : c.hasArrived = s.hasArrived := by
  simp [hasArrived, phase]

/-- What is added to the gauge is what becomes of the connection's own wait. -/
def Moved.Gauged (s : Session) (m : Moved) : Prop :=
  m.meter.waiting + s.hasArrived.toNat = m.session.hasArrived.toNat

private theorem Moved.Gauged.of_taken (gauged : m.Gauged c) (phase : c.phase = s.phase) : m.Gauged s := by
  rwa [Moved.Gauged, ← hasArrived_congr phase]

private theorem waiting_abandon (bound : s.Bound r) : (s.abandon r).2.waiting + s.hasArrived.toNat = 0 := by
  by_cases waits : ∃ h place w, s.phase = .waiting h place w
  · obtain ⟨h, place, w, waiting⟩ := waits
    obtain ⟨b, there⟩ := Option.ne_none_iff_exists'.mp (bound.ne_none waiting)
    have dropped := b.waiting_drop w
    rw [abandon_of_waiting r waiting]
    simp only [Registry.update, there, hasArrived, waiting, dropped, Barrier.gauge]
    omega
  · have idle : ∀ h place w, s.phase ≠ .waiting h place w := fun h place w waiting => waits ⟨h, place, w, waiting⟩
    simp [abandon_of_idle r idle, hasArrived_of_idle idle]

private theorem finish_gauged (bound : s.Bound r) (how : Ending) : (s.finish r how).Gauged s := by
  have abandoned := waiting_abandon bound
  simpa [Moved.Gauged, finish, Ending.meter, hasArrived] using abandoned

private theorem finishWith_gauged (bound : s.Bound r) (response : Response) (how : Ending) :
    (s.finishWith r response how).Gauged s := by
  unfold finishWith
  split
  · exact finish_gauged bound _
  · exact finish_gauged bound how

/-- To answer counts at most the fault of the answer. -/
theorem reply_meter (idle : ∀ h place w, c.phase ≠ .waiting h place w) (r : Registry) (response : Response)
    (meter : Meter) : ∃ kinds, (c.reply r response meter).meter = meter + { errors := kinds } := by
  unfold reply
  split
  · rename_i f _
    refine ⟨(Ending.unwritable f).meter.errors, ?_⟩
    simp only [finish, abandon_of_idle r idle, Meter.empty_add, Ending.meter]
  · exact ⟨[], (Meter.add_empty meter).symm⟩

private theorem reply_gauged (idle : ∀ h place w, c.phase ≠ .waiting h place w) (r : Registry) (response : Response)
    {meter : Meter} (balance : meter.waiting + s.hasArrived.toNat = 0) : (c.reply r response meter).Gauged s := by
  obtain ⟨kinds, counts⟩ := reply_meter idle r response meter
  have after : (c.reply r response meter).session.hasArrived = false := by
    unfold reply
    split
    · rfl
    · exact hasArrived_of_idle idle
  simpa [Moved.Gauged, counts, after] using balance

-- From here on no response is to be computed.
attribute [local irreducible] reply finishWith

private theorem reply_gauged_of_serving (serving : c.phase = .serving) (r : Registry) (response : Response)
    {meter : Meter} (still : meter.waiting = 0) : (c.reply r response meter).Gauged c := by
  have idle : ∀ h place w, c.phase ≠ .waiting h place w := by simp [serving]
  exact reply_gauged idle r response (by simp [still, hasArrived_of_idle idle])

private theorem dispatch_gauged (bound : c.Bound service.registry) (serving : c.phase = .serving) (request : Request) :
    (c.dispatch service request).Gauged c := by
  have onBarrier : ∀ (h : Handle) (f : Registry.Place → Moved), (∀ place, (f place).Gauged c) →
      (c.withBarrier service.registry h f).Gauged c := by
    intro h f does
    unfold withBarrier
    cases c.binding? h with
    | none => exact reply_gauged_of_serving serving _ _ rfl
    | some e => exact does e.2
  have command : ∀ (h : Handle) (f : Barrier → Barrier × Meter), (∀ b, (f b).2.waiting = 0) →
      (c.withBarrier service.registry h fun place =>
        let done := service.registry.update place f
        c.reply done.1 .ok done.2).Gauged c := by
    intro h f still
    refine onBarrier h _ fun place => reply_gauged_of_serving serving _ _ ?_
    unfold Registry.update
    split
    · exact still _
    · rfl
  cases request with
  | hello secret => exact reply_gauged_of_serving serving _ _ rfl
  | getBarrier key =>
    simp only [dispatch, issue]
    have issued : ∀ place r response meter, meter.waiting = 0 →
        (({ c with handles := c.handles.push (key, place) } : Session).reply r response meter).Gauged c :=
      fun place r response meter still =>
        (reply_gauged_of_serving (c := { c with handles := c.handles.push (key, place) }) serving r response
          still).of_taken rfl
    rcases service.registry.getOrCreate_cases key with ⟨place, _, got⟩ | ⟨_, _, got⟩ | ⟨_, _, got⟩
    · rw [got]
      exact issued place _ _ _ rfl
    · rw [got]
      exact issued service.registry.size _ _ _ rfl
    · rw [got]
      have gauged := finish_gauged bound .impossible
      simpa [Moved.Gauged] using gauged
  | wait h timeout =>
    refine onBarrier h _ fun place => ?_
    simp [Moved.Gauged, hasArrived, serving]
  | status h =>
    refine onBarrier h _ fun place => ?_
    split
    · exact reply_gauged_of_serving serving _ _ rfl
    · exact finish_gauged bound _
  | abort h => exact command h Barrier.abort Barrier.waiting_abort
  | reset h => exact command h Barrier.reset Barrier.waiting_reset

private theorem serve_gauged (bound : c.Bound service.registry) (serving : c.phase = .serving) (body : Bytes) :
    (c.serve service body).Gauged c := by
  unfold serve
  cases Request.decode? body with
  | some request => exact dispatch_gauged bound serving request
  | none => exact finishWith_gauged bound _ _

private theorem greet_gauged (bound : c.Bound service.registry) {deadline : Option Nat}
    (greeting : c.phase = .greeting deadline) (body : Bytes) : (c.greet service body).Gauged c := by
  have rejected : ∀ why, (c.reject service.registry why).Gauged c := fun why => finish_gauged bound (.rejected why)
  unfold greet
  cases Request.decode? body with
  | none => exact rejected _
  | some request =>
    cases request with
    | hello secret =>
      simp only
      split
      · refine reply_gauged (by simp) _ _ ?_
        simp [hasArrived, greeting]
      · exact rejected _
    | _ => exact rejected _

private theorem putAside_gauged (bound : c.Bound service.registry) (h : Handle) (body : Bytes) :
    (c.putAside service.registry h body).Gauged c := by
  unfold putAside
  split
  · exact finishWith_gauged bound _ _
  · simp [Moved.Gauged, hasArrived]

private theorem takeItem_gauged (bound : c.Bound service.registry) {item : Frame.Item}
    (moved : c.takeItem service item = some m) : m.Gauged c := by
  have ends : ∀ how, (c.finish service.registry how).Gauged c := finish_gauged bound
  unfold takeItem at moved
  split at moved
  · cases moved
  · cases moved
  · rename_i deadline body greeting
    cases moved
    exact greet_gauged bound greeting body
  · cases moved
    exact ends (.rejected .unframed)
  · cases moved
    exact ends _
  · rename_i body serving
    cases moved
    exact serve_gauged bound serving body
  · cases moved
    exact ends _
  · cases moved
    exact ends _
  · cases moved
    exact putAside_gauged bound _ _
  · cases moved
    exact ends _
  · cases moved
    exact ends _

private theorem pollWait_gauged (bound : s.Bound service.registry) {h : Handle} {place : Registry.Place}
    {w : Barrier.Wait} (waiting : s.phase = .waiting h place w) : (s.pollWait service now h place w).Gauged s := by
  obtain ⟨b, there⟩ := Option.ne_none_iff_exists'.mp (bound.ne_none waiting)
  have gauge := b.waiting_poll now w
  have here : s.hasArrived = w.arrival.isSome := by simp [hasArrived, waiting]
  unfold pollWait
  rcases polled : b.poll now w with ⟨b', poll, meter⟩
  rw [polled] at gauge
  simp only [there, polled]
  cases poll with
  | pending w' =>
    have gauge : meter.waiting = w'.arrival.isSome.toNat - w.arrival.isSome.toNat := gauge
    rw [Moved.Gauged, here]
    show meter.waiting + _ = (w'.arrival.isSome.toNat : Int)
    omega
  | done result =>
    have gauge : meter.waiting = 0 - w.arrival.isSome.toNat := gauge
    refine reply_gauged (by simp) _ _ ?_
    rw [here]
    omega

private theorem turn_gauged (bound : s.Bound service.registry) (moved : s.turn service now t = some m) :
    m.Gauged s := by
  cases t with
  | look =>
    simp only [turn, look] at moved
    split at moved
    · rename_i fresh
      cases moved
      simp [Moved.Gauged, begin, hasArrived, fresh]
    · split at moved
      · cases moved
        exact (finish_gauged (bound.congr rfl rfl) (.rejected _)).of_taken rfl
      · cases moved
    · rename_i h place w waiting
      split at moved
      · cases moved
      · cases moved
        exact pollWait_gauged bound waiting
    · cases moved
  | input =>
    simp only [turn, takeInput] at moved
    split at moved
    · rename_i body backlog serving _
      cases moved
      exact (serve_gauged (c := { s with backlog }) (bound.congr rfl rfl) serving body).of_taken rfl
    · exact (takeItem_gauged (c := { s with inlet := s.inlet.next.2 }) (bound.congr rfl rfl) moved).of_taken rfl

end Session

namespace Server

variable {s : Server}

/-- How many connections have a wait open that has arrived. -/
def arrived (s : Server) : Nat :=
  s.lines.countP (·.session.hasArrived)

private theorem arrived_set {i : Nat} {line : Line} (found : s.lines[i]? = some line) (line' : Line) :
    (s.lines.setIfInBounds i line').countP (·.session.hasArrived) + line.session.hasArrived.toNat =
      s.arrived + line'.session.hasArrived.toNat :=
  countP_set_add found (·.session.hasArrived) line'

/-- What a connection does adds to the gauge what becomes of its wait. -/
private theorem gauge_of_acted {s' : Server} {i : Nat} {line line' : Line} {r : Registry} {added : Meter}
    (found : s.lines[i]? = some line) (acted : s.Acted i line' r added s') (gauge : s.meter.waiting = s.arrived)
    (balance : added.waiting + line.session.hasArrived.toNat = line'.session.hasArrived.toNat) :
    s'.meter.waiting = s'.arrived := by
  have counts := arrived_set found line'
  rw [arrived, acted.lines, acted.meter, Meter.add_waiting]
  omega

private theorem arrived_modify (s : Server) (i : Nat) (f : Session → Session) (phase : ∀ c, (f c).phase = c.phase) :
    (s.modifySession i f).arrived = s.arrived := by
  cases found : s.lines[i]? with
  | none =>
    have same : (s.modifySession i f).lines = s.lines := by
      refine Array.ext_getElem? fun j => ?_
      rw [getElem?_modifySession]
      split
      · rename_i here
        rw [here, found]
        rfl
      · rfl
    rw [arrived, same, arrived]
  | some line =>
    have same : (s.modifySession i f).lines = s.lines.setIfInBounds i { line with session := f line.session } := by
      refine Array.ext_getElem? fun j => ?_
      rw [getElem?_modifySession, getElem?_set found, found, Option.map_some]
    have counts := arrived_set found { line with session := f line.session }
    rw [Session.hasArrived_congr (phase line.session), Nat.add_right_cancel_iff] at counts
    rw [arrived, same, counts]

private theorem gauge_step (linked : s.Linked) (gauge : s.meter.waiting = s.arrived) (op : Operation) :
    (s.perform op).meter.waiting = (s.perform op).arrived := by
  have peer : ∀ i (f : Session → Session), (∀ c, (f c).phase = c.phase) →
      s.meter.waiting = (s.modifySession i f).arrived := by
    intro i f phase
    rw [gauge, s.arrived_modify i f phase]
  cases op with
  | accept =>
    cases going : s.running with
    | true =>
      rw [perform_accept going]
      simpa [arrived, Array.countP_push, Session.hasArrived, Session.new] using gauge
    | false => simpa [perform, Server.accept, going] using gauge
  | receive i bytes => exact peer i (fun c => { c with inlet := c.inlet.push bytes }) fun _ => rfl
  | halfClose i => exact peer i (fun c => { c with inlet := c.inlet.close }) fun _ => rfl
  | close i => exact peer i (fun c => { c with inlet := c.inlet.close, gone := true }) fun _ => rfl
  | advance ms => exact gauge
  | stop => exact gauge
  | turn i t =>
    cases found : s.lines[i]? with
    | none =>
      rw [perform_turn_of_none (by simp [found])]
      exact gauge
    | some line =>
      cases moved : line.session.turn s.service s.now t with
      | none =>
        rw [perform_turn_of_none (by simpa [found] using moved)]
        exact gauge
      | some m =>
        have gauged : m.Gauged line.session := Session.turn_gauged (linked found) moved
        exact gauge_of_acted found (acted_of_turn found moved) gauge gauged
  | cut i =>
    by_cases closed : s.running = true ∨ ∀ line, s.lines[i]? = some line → line.session.hasEnded = true
    · rw [perform_cut_of_none closed]
      exact gauge
    · simp only [not_or, Bool.not_eq_true, not_forall] at closed
      obtain ⟨stopped, line, found, live⟩ := closed
      have abandoned := Session.waiting_abandon (linked found)
      exact gauge_of_acted found (acted_of_cut stopped found live) gauge (by simpa [Session.hasArrived] using abandoned)

theorem gauge_of_run (linked : s.Linked) (gauge : s.meter.waiting = s.arrived) (ops : List Operation) :
    (s.run ops).meter.waiting = (s.run ops).arrived := by
  induction ops generalizing s with
  | nil => exact gauge
  | cons op ops ih => exact ih ((perform_step s op).turned linked).linked (gauge_step linked gauge op)

/-- In every run the gauge of a server stands at the number of waits that have arrived and are not finished. -/
theorem gauge_counts_arrived (config : ServerConfig) (secret : Secret) (address : Address)
    (complaint : Bytes → String) (ops : List Operation) :
    ((start config secret address complaint).run ops).meter.waiting =
      ((start config secret address complaint).run ops).arrived :=
  gauge_of_run (fun found => by simp [start] at found) rfl ops

/-- Connections that have ended count no more. -/
theorem arrived_of_ended (ended : ∀ (i : Nat) (line : Line), s.lines[i]? = some line → line.session.hasEnded = true) :
    s.arrived = 0 := by
  refine Array.countP_eq_zero.mpr fun line member => ?_
  obtain ⟨i, found⟩ := Array.getElem?_of_mem member
  have closed := ended i line found
  simp only [Session.hasEnded, Session.hasArrived] at closed ⊢
  cases phase : line.session.phase <;> simp_all

end Server
end Lockstep
