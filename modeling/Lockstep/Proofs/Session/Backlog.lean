import Lockstep.Proofs.Frame.Chunks
import Lockstep.Proofs.Message.RoundTrip
import Lockstep.Proofs.Server.Requests

namespace Lockstep.Session
open Server

variable {service : Service} {now : Nat} {s c : Session} {t : Turn} {m : Moved} {r : Registry} {h : Handle}
  {place : Registry.Place} {w : Barrier.Wait}

/-- A step reads nothing, puts nothing aside, and is no end because of too many frames. -/
structure Moved.Plain (m : Moved) (c : Session) : Prop where
  inlet : m.session.inlet = c.inlet
  backlog : m.session.backlog.length ≤ c.backlog.length
  ending : ∀ h, m.session.phase ≠ .ended (.overrun h)

private theorem finish_plain (c : Session) (r : Registry) {how : Ending} (other : ∀ h, how ≠ .overrun h) :
    (c.finish r how).Plain c :=
  ⟨rfl, Nat.zero_le _, fun h same => other h (Phase.ended.inj same)⟩

private theorem reply_plain (calm : ∀ h, c.phase ≠ .ended (.overrun h)) (r : Registry) (response : Response)
    (meter : Meter) : (c.reply r response meter).Plain c := by
  unfold reply
  cases c.writeFault? response with
  | none => exact ⟨rfl, Nat.le_refl _, calm⟩
  | some f => exact ⟨rfl, Nat.zero_le _, by simp [finish]⟩

private theorem finishWith_plain (c : Session) (r : Registry) (response : Response) {how : Ending}
    (other : ∀ h, how ≠ .overrun h) : (c.finishWith r response how).Plain c := by
  unfold finishWith
  cases c.writeFault? response with
  | none => exact ⟨rfl, Nat.zero_le _, fun h same => other h (Phase.ended.inj same)⟩
  | some f => exact finish_plain c r (by simp)

private theorem reject_plain (c : Session) (r : Registry) (why : Rejection) : (c.reject r why).Plain c :=
  ⟨rfl, Nat.zero_le _, by simp [reject, finish]⟩

-- From here on no response is to be computed.
attribute [local irreducible] reply finishWith

private theorem greet_plain (c : Session) (body : Bytes) : (c.greet service body).Plain c := by
  unfold greet
  cases Request.decode? body with
  | none => exact reject_plain _ _ _
  | some request =>
    cases request with
    | hello secret =>
      by_cases verified : service.secret.verify secret = true
      · simp only [verified, if_true]
        have plain := reply_plain (c := { c with phase := .serving }) (by simp) service.registry
          (.welcome service.config.parties) {}
        exact ⟨plain.inlet, plain.backlog, plain.ending⟩
      · simp only [verified]
        exact reject_plain _ _ _
    | _ => exact reject_plain _ _ _

private theorem dispatch_plain (calm : ∀ h, c.phase ≠ .ended (.overrun h)) (request : Request) :
    (c.dispatch service request).Plain c := by
  have onBarrier : ∀ (h : Handle) (f : Registry.Place → Moved), (∀ place, (f place).Plain c) →
      (c.withBarrier service.registry h f).Plain c := by
    intro h f does
    unfold withBarrier
    split
    · exact does _
    · exact reply_plain calm _ _ _
  cases request with
  | hello secret => exact reply_plain calm _ _ _
  | getBarrier key =>
    simp only [dispatch, issue]
    split
    · rename_i registry place meter _
      have plain := reply_plain (c := { c with handles := c.handles.push (key, place) }) calm registry
        (.handle (c.handles.push (key, place)).size registry.options.parties) meter
      exact ⟨plain.inlet, plain.backlog, plain.ending⟩
    · exact ⟨rfl, Nat.zero_le _, by simp [finish]⟩
  | wait h timeout => exact onBarrier h _ fun place => ⟨rfl, Nat.le_refl _, by simp⟩
  | status h =>
    refine onBarrier h _ fun place => ?_
    split
    · exact reply_plain calm _ _ _
    · exact finish_plain _ _ (by simp)
  | abort h => exact onBarrier h _ fun place => reply_plain calm _ _ _
  | reset h => exact onBarrier h _ fun place => reply_plain calm _ _ _

private theorem serve_plain (calm : ∀ h, c.phase ≠ .ended (.overrun h)) (body : Bytes) :
    (c.serve service body).Plain c := by
  unfold serve
  cases Request.decode? body with
  | some request => exact dispatch_plain calm request
  | none => exact finishWith_plain _ _ _ (by simp)

private theorem pollWait_plain (c : Session) (h : Handle) (place : Registry.Place) (w : Barrier.Wait) :
    (c.pollWait service now h place w).Plain c := by
  unfold pollWait
  split
  · exact finish_plain _ _ (by simp)
  · rename_i b _
    rcases polled : b.poll now w with ⟨b', poll, meter⟩
    cases poll with
    | pending w' => exact ⟨rfl, Nat.le_refl _, by simp⟩
    | done result =>
      have plain := reply_plain (c := { c with phase := .serving }) (by simp) (service.registry.put place b')
        (responseOf result) meter
      exact ⟨plain.inlet, plain.backlog, plain.ending⟩

/-- A frame has come in behind an open wait, and there is no room for it. -/
def Overrun (s : Session) : Prop :=
  ∃ h place w body, s.phase = .waiting h place w ∧ s.inlet.next.1 = .frame body ∧ maxBacklog ≤ s.backlog.length

/-- What a turn does to the frames that were put aside. -/
inductive Fills (s : Session) : Turn → Moved → Prop
  | plain {t : Turn} {m : Moved} : (m.session.hasEnded = true ∨ m.session.inlet = s.inlet ∨
        ∃ body, s.inlet.next.1 = .frame body ∧ m.session.inlet = s.inlet.next.2) →
      m.session.backlog.length ≤ s.backlog.length → (∀ h, m.session.phase ≠ .ended (.overrun h)) → Fills s t m
  | aside {m : Moved} {h : Handle} {place : Registry.Place} {w : Barrier.Wait} {body : Bytes} :
      s.phase = .waiting h place w → s.inlet.next.1 = .frame body → s.backlog.length < maxBacklog →
      m.session = { s with inlet := s.inlet.next.2, backlog := s.backlog ++ [body] } → Fills s .input m
  | overrun {m : Moved} : s.Overrun → m.session.hasEnded = true → m.session.backlog = [] → Fills s .input m

private theorem Fills.of_plain (plain : m.Plain c) (inlet : c.inlet = s.inlet ∨
    ∃ body, s.inlet.next.1 = .frame body ∧ c.inlet = s.inlet.next.2) (backlog : c.backlog.length ≤ s.backlog.length) :
    Fills s t m := by
  refine .plain (.inr ?_) (Nat.le_trans plain.backlog backlog) plain.ending
  rw [plain.inlet]
  exact inlet

private theorem putAside_fills {body : Bytes} (waiting : s.phase = .waiting h place w)
    (item : s.inlet.next.1 = .frame body) (taken : c = { s with inlet := s.inlet.next.2 }) :
    Fills s .input (c.putAside r h body) := by
  unfold putAside
  have backlog : c.backlog = s.backlog := by rw [taken]
  rw [backlog]
  split
  · rename_i full
    have closes : ∀ response how, (c.finishWith r response how).session.hasEnded = true ∧
        (c.finishWith r response how).session.backlog = [] := by
      intro response how
      unfold finishWith
      split
      · exact ⟨rfl, rfl⟩
      · exact ⟨rfl, rfl⟩
    exact .overrun ⟨h, place, w, body, waiting, item, full⟩ (closes _ _).1 (closes _ _).2
  · rename_i room
    exact .aside waiting item (Nat.lt_of_not_le room) (by rw [taken])

private theorem takeItem_fills (taken : c = { s with inlet := s.inlet.next.2 })
    (moved : c.takeItem service s.inlet.next.1 = some m) : Fills s .input m := by
  have phases : c.phase = s.phase := by rw [taken]
  have backlog : c.backlog.length ≤ s.backlog.length := by rw [taken]
  unfold takeItem at moved
  cases item : s.inlet.next.1 with
  | pending => simp [item] at moved
  | frame body =>
    have read : c.inlet = s.inlet ∨ ∃ b, s.inlet.next.1 = .frame b ∧ c.inlet = s.inlet.next.2 :=
      .inr ⟨body, item, by rw [taken]⟩
    cases phase : c.phase with
    | greeting deadline =>
      simp only [item, phase, Option.some.injEq] at moved
      rw [← moved]
      exact .of_plain (greet_plain c body) read backlog
    | serving =>
      simp only [item, phase, Option.some.injEq] at moved
      rw [← moved]
      exact .of_plain (serve_plain (by simp [phase]) body) read backlog
    | waiting h place w =>
      simp only [item, phase, Option.some.injEq] at moved
      rw [← moved]
      exact putAside_fills (phases.symm.trans phase) item taken
    | ended how => simp [item, phase] at moved
  | failed failure =>
    cases phase : c.phase with
    | ended how => simp [item, phase] at moved
    | _ =>
      simp only [item, phase, Option.some.injEq] at moved
      rw [← moved]
      exact .plain (.inl rfl) (Nat.zero_le _) (by simp [reject, finish])
  | finished =>
    cases phase : c.phase with
    | ended how => simp [item, phase] at moved
    | _ =>
      simp only [item, phase, Option.some.injEq] at moved
      rw [← moved]
      exact .plain (.inl rfl) (Nat.zero_le _) (by simp [finish])

theorem turn_fills (moved : s.turn service now t = some m) : Fills s t m := by
  cases t with
  | look =>
    cases phase : s.phase with
    | greeting deadline =>
      cases deadline with
      | none =>
        simp only [turn, look, phase, Option.some.injEq] at moved
        rw [← moved]
        exact .plain (.inr (.inl rfl)) (Nat.le_refl _) (by simp [Session.begin])
      | some deadline =>
        simp only [turn, look, phase, Option.ite_none_right_eq_some, Option.some.injEq] at moved
        rw [← moved.2]
        exact .plain (.inl rfl) (Nat.zero_le _) (by simp [reject, finish])
    | waiting h place w =>
      simp only [turn, look, phase, Option.ite_none_left_eq_some, Option.some.injEq] at moved
      rw [← moved.2]
      exact .of_plain (pollWait_plain s h place w) (.inl rfl) (Nat.le_refl _)
    | serving => simp [turn, look, phase] at moved
    | ended how => simp [turn, look, phase] at moved
  | input =>
    simp only [turn, takeInput] at moved
    split at moved
    · rename_i body backlog serving aside
      rw [← Option.some.inj moved]
      refine .of_plain (c := { s with backlog }) (serve_plain (by simp [serving]) body) (.inl rfl) ?_
      simp [aside]
    · exact takeItem_fills rfl moved

/-- What was put aside is not too much, reading has not failed, and a wait is on a handle of 64 bits. -/
structure Sane (s : Session) : Prop where
  room : s.backlog.length ≤ maxBacklog
  unfailed : s.hasEnded = false → s.inlet.failed = false
  counted : ∀ {h place w}, s.phase = .waiting h place w → h ≤ Json.maxNatural

theorem Sane.new : Session.new.Sane where
  room := Nat.zero_le _
  unfailed := fun _ => rfl
  counted := by simp [Session.new]

theorem Sane.push (sane : s.Sane) (bytes : Bytes) : ({ s with inlet := s.inlet.push bytes } : Session).Sane :=
  ⟨sane.room, sane.unfailed, sane.counted⟩

theorem Sane.close (sane : s.Sane) (gone : Bool) : ({ s with inlet := s.inlet.close, gone } : Session).Sane :=
  ⟨sane.room, sane.unfailed, sane.counted⟩

theorem Sane.ended (ended : s.hasEnded = true) (nothing : s.backlog = []) : s.Sane where
  room := by simp [nothing]
  unfailed := fun live => by simp [live] at ended
  counted := fun waiting => by simp [live_of_waiting waiting] at ended

theorem Sane.turn (sane : s.Sane) (bound : s.Bound service.registry) (moved : s.turn service now t = some m) :
    m.session.Sane := by
  have live : s.hasEnded = false := by
    cases ended : s.hasEnded with
    | false => rfl
    | true => simp [turn_of_ended ended] at moved
  have counted : ∀ {h place w}, m.session.phase = .waiting h place w → h ≤ Json.maxNatural := by
    intro h place w waiting
    cases turn_did moved with
    | await _ _ read _ _ _ began =>
      rw [began, Phase.waiting.injEq] at waiting
      rw [← waiting.1]
      exact Request.handle?_le read rfl
    | putAside _ _ _ same => exact sane.counted (same.symm.trans waiting)
    | pending before _ _ _ _ after =>
      rw [after, Phase.waiting.injEq] at waiting
      rw [← waiting.1]
      exact sane.counted before
    | welcome _ _ _ _ _ idle => exact absurd waiting (idle.ne_waiting _ _ _)
    | answer _ _ _ idle => exact absurd waiting (idle.ne_waiting _ _ _)
    | issue _ _ _ idle => exact absurd waiting (idle.ne_waiting _ _ _)
    | command _ _ _ _ _ idle => exact absurd waiting (idle.ne_waiting _ _ _)
    | finish _ _ _ _ _ idle => exact absurd waiting (idle.ne_waiting _ _ _)
    | reject _ _ _ _ ended => simp [ended] at waiting
    | begin => simp [Session.begin] at waiting
    | leave _ _ _ ended => simp [ended] at waiting
    | stray before missing => exact absurd missing (bound.ne_none before)
  have onward : ∀ {body}, s.inlet.next.1 = .frame body → s.inlet.next.2.failed = false := by
    intro body item
    obtain ⟨_, goes, _, next⟩ := Frame.Inlet.of_next_frame (j := s.inlet.next.2) (Prod.ext item rfl)
    rw [next]
    exact goes
  cases turn_fills moved with
  | plain inlet backlog _ =>
    refine ⟨Nat.le_trans backlog sane.room, fun alive => ?_, counted⟩
    rcases inlet with ended | same | ⟨body, item, same⟩
    · simp [ended] at alive
    · rw [same]
      exact sane.unfailed live
    · rw [same]
      exact onward item
  | @aside _ _ _ _ body waiting item room session =>
    refine ⟨?_, fun _ => ?_, counted⟩
    · rw [session, List.length_append]
      exact room
    · rw [session]
      exact onward item
  | overrun _ ended nothing => exact .ended ended nothing

/-- What a peer is told that sends too many frames behind its wait on this handle. -/
def tooMany (h : Handle) : Response :=
  .error .protocolViolation
    ("Too many requests pipelined behind a wait: more than 16 frames behind handle " ++ toString h)

private theorem tooMany_eq (h : Handle) :
    Response.ofFault ((Ending.overrun h).fault?.getD alreadyAuthenticated) = tooMany h := by
  have text : "Too many requests pipelined behind a wait" ++ ": " ++ ("more than " ++ toString maxBacklog ++
      " frames behind handle ") =
      "Too many requests pipelined behind a wait: more than 16 frames behind handle " := by decide
  show Response.error .protocolViolation ("Too many requests pipelined behind a wait" ++ ": " ++
    ("more than " ++ toString maxBacklog ++ " frames behind handle " ++ toString h)) = tooMany h
  rw [tooMany, ← text]
  simp only [String.append_assoc]

/-- The connection ends because of too many frames, its peer is told so if it still takes bytes, and the wait is given
    up. -/
structure Moved.TurnedAway (m : Moved) (service : Service) (s : Session) (h : Handle) (place : Registry.Place)
    (w : Barrier.Wait) : Prop where
  ended : m.session.hasEnded = true
  sent : m.sent = if s.gone then none else some (tooMany h)
  registry : m.registry = (service.registry.update place (·.drop w)).1

/-- More frames have come in behind an open wait than may be put aside. -/
structure Crowded (s : Session) (h : Handle) (place : Registry.Place) (w : Barrier.Wait) : Prop where
  sane : s.Sane
  waiting : s.phase = .waiting h place w
  fits : s.inlet.reader.Fits
  many : ∃ count, Frame.Carries s.inlet.unread count ∧ maxBacklog < s.backlog.length + count

theorem Crowded.push (crowded : s.Crowded h place w) (bytes : Bytes) :
    ({ s with inlet := s.inlet.push bytes } : Session).Crowded h place w where
  sane := crowded.sane.push bytes
  waiting := crowded.waiting
  fits := crowded.fits.push bytes
  many := by
    obtain ⟨count, carries, many⟩ := crowded.many
    refine ⟨count, ?_, many⟩
    have more : (s.inlet.push bytes).unread = s.inlet.unread ++ bytes := by
      simp [Frame.Inlet.unread, Frame.Inlet.push]
    rw [more]
    exact carries.append bytes

theorem Crowded.close (crowded : s.Crowded h place w) (gone : Bool) :
    ({ s with inlet := s.inlet.close, gone } : Session).Crowded h place w :=
  ⟨crowded.sane.close gone, crowded.waiting, crowded.fits, crowded.many⟩

/-- There is always one more frame to come. -/
private theorem Crowded.next (crowded : s.Crowded h place w) : ∃ body rest count,
    s.inlet.next = (.frame body, { s.inlet with reader := ⟨none, rest⟩ }) ∧ Frame.Carries rest count ∧
      maxBacklog < s.backlog.length + (count + 1) := by
  obtain ⟨count, carries, many⟩ := crowded.many
  have room := crowded.sane.room
  obtain ⟨count, rfl⟩ := Nat.exists_eq_add_one.mpr (show 0 < count by omega)
  obtain ⟨body, rest, bytes, small, others⟩ := carries.first
  have goes := crowded.sane.unfailed (live_of_waiting crowded.waiting)
  exact ⟨body, rest, count, Frame.Inlet.next_whole goes crowded.fits small bytes, others, many⟩

/-- As long as the wait is open, a turn of input can be taken. -/
theorem Crowded.input (crowded : s.Crowded h place w) (service : Service) (now : Nat) : ∃ body m,
    s.inlet.next.1 = .frame body ∧ m = ({ s with inlet := s.inlet.next.2 } : Session).putAside service.registry h body ∧
      s.turn service now .input = some m := by
  obtain ⟨body, rest, _, next, _⟩ := crowded.next
  have item : s.inlet.next.1 = .frame body := by rw [next]
  exact ⟨body, _, item, rfl, by simp [turn, takeInput, takeItem, crowded.waiting, item]⟩

private theorem tooMany_fits (counted : h ≤ Json.maxNatural) : (tooMany h).encode.length ≤ Frame.maxBody := by
  have detail : ((Ending.overrun h).fault?.getD alreadyAuthenticated).detail =
      some ("more than " ++ toString maxBacklog ++ " frames behind handle " ++ toString h ++ "") := by
    rw [String.append_empty]
    rfl
  rw [← tooMany_eq]
  refine Response.ofFault_fits counted detail ?_
  show ("Too many requests pipelined behind a wait".length +
    ("more than " ++ toString maxBacklog ++ " frames behind handle ").length + "".length ≤ 20000)
  decide

/-- The frame for which there is no room ends the connection. -/
private theorem putAside_full (c : Session) (service : Service) (waiting : c.phase = .waiting h place w)
    (counted : h ≤ Json.maxNatural) (full : maxBacklog ≤ c.backlog.length) (body : Bytes) :
    (c.putAside service.registry h body).TurnedAway service c h place w := by
  have abandoned := abandon_of_waiting service.registry waiting
  have fits : ¬ Frame.maxBody < (tooMany h).encode.length := Nat.not_lt.mpr (tooMany_fits counted)
  have writes : c.writeFault? (tooMany h) = if c.gone then some Frame.brokenPipe else none := by
    rw [writeFault?, if_neg fits]
  simp only [putAside, if_pos full, tooMany_eq, finishWith, writes]
  cases gone : c.gone with
  | false => exact ⟨rfl, by simp [gone], by simp [finish, abandoned]⟩
  | true => exact ⟨rfl, by simp [gone, finish], by simp [finish, abandoned]⟩

/-- As long as a wait is open behind which there are too many frames, a turn puts one more aside, ends the connection
    because of them, polls the wait, or finds it over. -/
inductive Crowded.Turns (service : Service) (now i : Nat) (s : Session) (h : Handle) (place : Registry.Place)
    (w : Barrier.Wait) (t : Turn) (m : Moved) : Prop
  | goes {w' : Barrier.Wait} : m.session.Crowded h place w' → m.session.handles = s.handles →
      (∀ e ∈ s.turnEvents service now i t m, ∃ key b, e = .barrier key b) →
      Crowded.Turns service now i s h place w t m
  | away : t = .input → s.backlog.length = maxBacklog → m.TurnedAway service s h place w →
      Crowded.Turns service now i s h place w t m
  | returned {key : PartitionKey} {place' : Registry.Place} {g : Nat} {result : Barrier.Result} :
      s.binding? h = some (key, place') →
      .barrier key (.returned i g result) ∈ s.turnEvents service now i t m → Crowded.Turns service now i s h place w t m

/-- A turn of an open wait that writes nothing shows nothing but events of the barrier. -/
private theorem barrier_of_silent (bound : s.Bound service.registry) (waiting : s.phase = .waiting h place w)
    (silent : m.sent = none) (i : Nat) : ∀ e ∈ s.turnEvents service now i t m, ∃ key b, e = .barrier key b := by
  obtain ⟨key, found⟩ := bound.waits waiting
  have opened := openWait?_of_waiting waiting found
  intro e member
  rcases mem_turnEvents member with ⟨_, read⟩ | began | dropped | polled | ⟨response, about, rfl⟩
  · simp [readEvents, frame?, waiting] at read
  · simp [openEvents, opened] at began
  · simp only [dropEvents, opened, List.mem_map] at dropped
    obtain ⟨b, _, rfl⟩ := dropped
    exact ⟨_, b, rfl⟩
  · simp only [pollEvents, opened] at polled
    split at polled
    · obtain ⟨b, _, rfl⟩ := List.mem_map.mp polled
      exact ⟨_, b, rfl⟩
    · cases polled
  · have written : response ∈ (s.turnEvents service now i t m).filterMap (Event.responseTo? i) :=
      List.mem_filterMap.mpr ⟨_, member, by simp [Event.responseTo?]⟩
    simp [responseTo?_turnEvents, silent] at written

private theorem returned_of_done (bound : s.Bound service.registry) (waiting : s.phase = .waiting h place w)
    {b : Barrier} {result : Barrier.Result} (there : service.registry.barrier? place = some b)
    (polled : (b.poll now w).2.1 = .done result) (i : Nat) : ∃ key place' g, s.binding? h = some (key, place') ∧
      .barrier key (.returned i g result) ∈ s.turnEvents service now i .look m := by
  obtain ⟨key, found⟩ := bound.waits waiting
  refine ⟨key, place, w.generation b, found, ?_⟩
  simp [turnEvents, pollEvents, openWait?_of_waiting waiting found, there, Barrier.pollEvents, polled]

theorem Crowded.turn (crowded : s.Crowded h place w) (bound : s.Bound service.registry)
    (moved : s.turn service now t = some m) (i : Nat) : Crowded.Turns service now i s h place w t m := by
  have sane := crowded.sane.turn bound moved
  have waiting := crowded.waiting
  cases turn_talk bound moved with
  | welcomed greeting => simp [waiting] at greeting
  | refused greeting => simp [waiting] at greeting
  | begun fresh => simp [waiting] at fresh
  | served serving => simp [waiting] at serving
  | malformed serving => simp [waiting] at serving
  | closing serving => simp [waiting] at serving
  | aside _ item silent session =>
    obtain ⟨body, rest, count, next, carries, many⟩ := crowded.next
    have taken : s.taken = { s with inlet := s.inlet.next.2 } := by simp [Session.taken, waiting]
    rw [next] at taken
    have crowded' : m.session.Crowded h place w := by
      refine ⟨sane, ?_, ?_, count, ?_, ?_⟩
      · rw [session]
        exact s.phase_taken.trans waiting
      · rw [session, taken]
        exact Frame.Reader.fits_new
      · rw [session, taken]
        exact carries
      · rw [session, List.length_append, List.length_singleton]
        omega
    exact .goes crowded' (by rw [session]; exact s.handles_taken) (barrier_of_silent bound waiting silent i)
  | left _ _ _ _ full =>
    obtain ⟨body, m', item, made, same⟩ := crowded.input service now
    rw [moved, Option.some.injEq] at same
    have full := full body item
    have counted := crowded.sane.counted waiting
    have away := putAside_full { s with inlet := s.inlet.next.2 } service waiting counted full body
    rw [← made, ← same] at away
    exact .away rfl (Nat.le_antisymm crowded.sane.room full) ⟨away.ended, away.sent, away.registry⟩
  | @pending _ _ _ _ _ w' before _ _ silent session =>
    rw [waiting, Phase.waiting.injEq] at before
    obtain ⟨rfl, rfl, rfl⟩ := before
    have crowded' : m.session.Crowded h place w' :=
      ⟨sane, by rw [session], by rw [session]; exact crowded.fits, by rw [session]; exact crowded.many⟩
    exact .goes crowded' (by rw [session]) (barrier_of_silent bound waiting silent i)
  | returned before there polled =>
    rw [waiting, Phase.waiting.injEq] at before
    obtain ⟨rfl, rfl, rfl⟩ := before
    obtain ⟨key, place', g, found, shown⟩ := returned_of_done bound waiting there polled i
    exact .returned found shown
  | unheard before there polled =>
    rw [waiting, Phase.waiting.injEq] at before
    obtain ⟨rfl, rfl, rfl⟩ := before
    obtain ⟨key, place', g, found, shown⟩ := returned_of_done bound waiting there polled i
    exact .returned found shown

end Lockstep.Session
