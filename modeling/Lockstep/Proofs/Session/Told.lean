import Lockstep.Proofs.Session.Bound

namespace Lockstep

namespace Server

/-- The last that was shown of this connection is that a wait on this key was dispatched and began; the secret had
    been shown before. -/
def Opened (h : List Event) (i : Nat) (key : PartitionKey) : Prop :=
  ∃ before handle timeout after, h = before ++ .dispatched i (.wait handle timeout) :: .opened i key :: after ∧
    .authenticated i ∈ before ∧ ∀ e ∈ after, e.connection ≠ i

/-- What has to be shown before an event. -/
def Reason (h : List Event) : Event → Prop
  | .decoded i _ => .authenticated i ∈ h ∨ ∀ e ∈ h, e.connection ≠ i
  | .dispatched i _ => .authenticated i ∈ h
  | .barrier key (.arrived i _) => Opened h i key
  | .sent i response (some (key, g)) =>
    ∃ before result, h = before ++ [.barrier key (.returned i g result)] ∧ response = Session.responseOf result
  | .sent _ response none => response.ofWait = false
  | _ => True

/-- After what was shown before, each of these events has its reason. -/
def Reasoned (h : List Event) : List Event → Prop
  | [] => True
  | e :: es => Reason h e ∧ Reasoned (h ++ [e]) es

theorem Reasoned.append {h es es' : List Event} (first : Reasoned h es) (second : Reasoned (h ++ es) es') :
    Reasoned h (es ++ es') := by
  induction es generalizing h with
  | nil => simpa using second
  | cons e es ih => exact ⟨first.1, ih first.2 (by simpa using second)⟩

theorem Reasoned.reason {h before after : List Event} {e : Event} (reasoned : Reasoned h (before ++ e :: after)) :
    Reason (h ++ before) e := by
  induction before generalizing h with
  | nil => simpa using reasoned.1
  | cons e' before ih => simpa using ih reasoned.2

private theorem Opened.append {h es : List Event} {i : Nat} {key : PartitionKey} (opened : Opened h i key)
    (others : ∀ e ∈ es, e.connection ≠ i) : Opened (h ++ es) i key := by
  obtain ⟨before, handle, timeout, after, rfl, shown, silent⟩ := opened
  refine ⟨before, handle, timeout, after ++ es, by simp, shown, fun e member => ?_⟩
  exact (List.mem_append.mp member).elim (silent e) (others e)

end Server

namespace Session
open Server

variable {service : Service} {now i : Nat} {s : Session} {t : Turn} {m : Moved} {h : List Event}

/-- What was shown of a connection fits its session. -/
structure Told (h : List Event) (i : Nat) (s : Session) : Prop where
  greeting : ∀ {deadline}, s.phase = .greeting deadline → ∀ e ∈ h, e.connection ≠ i
  serving : s.phase = .serving → .authenticated i ∈ h
  waiting : ∀ {handle place w}, s.phase = .waiting handle place w → .authenticated i ∈ h
  opened : ∀ {key place w}, s.openWait? = some (key, place, w) → w.arrival = none → Opened h i key

theorem Told.append {es : List Event} (told : Told h i s) (others : ∀ e ∈ es, e.connection ≠ i) :
    Told (h ++ es) i s where
  greeting := fun greeting e member => (List.mem_append.mp member).elim (told.greeting greeting e) (others e)
  serving := fun serving => List.mem_append_left _ (told.serving serving)
  waiting := fun waiting => List.mem_append_left _ (told.waiting waiting)
  opened := fun found first => (told.opened found first).append others

theorem connection_dropEvents (i : Nat) (s : Session) : ∀ e ∈ s.dropEvents i, e.connection = i := by
  intro e member
  unfold dropEvents at member
  split at member
  · rename_i key place w _
    cases arrival : w.arrival <;> simp [Barrier.dropEvents, arrival] at member
    rw [member]
    rfl
  · simp at member

private theorem connection_pollEvents (service : Service) (now i : Nat) (s : Session) :
    ∀ e ∈ s.pollEvents service now i, e.connection = i := by
  intro e member
  unfold pollEvents at member
  split at member
  · split at member
    · rename_i key place w _ b _
      obtain ⟨shown, here, rfl⟩ := List.mem_map.mp member
      simp only [Barrier.pollEvents] at here
      split at here
      · split at here <;> simp at here
        rw [here]
        rfl
      · split at here <;> simp at here
        · rcases here with rfl | rfl <;> rfl
        · rw [here]
          rfl
    · simp at member
  · simp at member

private theorem connection_readEvents (service : Service) (i : Nat) (s : Session) :
    ∀ e ∈ s.readEvents service i, e.connection = i := by
  intro e member
  unfold readEvents at member
  split at member
  · simp at member
  · rcases List.mem_cons.mp member with rfl | rest
    · rfl
    · split at rest
      · split at rest <;> simp at rest
        rw [rest]
        rfl
      · split at rest <;> simp at rest
        rw [rest]
        rfl

private theorem connection_openEvents (i : Nat) (before after : Session) :
    ∀ e ∈ openEvents i before after, e.connection = i := by
  intro e member
  unfold openEvents at member
  split at member <;> simp at member
  rw [member]
  rfl

/-- What a turn shows comes from reading, from the beginning or the end of a wait, from polling or from answering. -/
theorem mem_turnEvents {e : Event} (member : e ∈ s.turnEvents service now i t m) :
    (t = .input ∧ e ∈ s.readEvents service i) ∨ e ∈ openEvents i s m.session ∨ e ∈ s.dropEvents i ∨
      e ∈ s.pollEvents service now i ∨ ∃ response about, e = .sent i response about := by
  have answered : ∀ about, e ∈ (m.sent.map fun r => Event.sent i r about).toList →
      ∃ response about, e = .sent i response about := by
    intro about here
    obtain ⟨response, _, rfl⟩ := Option.map_eq_some_iff.mp (Option.mem_toList.mp here)
    exact ⟨response, about, rfl⟩
  cases t with
  | look =>
    rcases List.mem_append.mp member with polled | here
    · exact .inr (.inr (.inr (.inl polled)))
    · exact .inr (.inr (.inr (.inr (answered _ here))))
  | input =>
    simp only [turnEvents, List.mem_append, or_assoc] at member
    rcases member with here | here | here | here
    · exact .inl ⟨rfl, here⟩
    · exact .inr (.inl here)
    · split at here
      · exact .inr (.inr (.inl here))
      · simp at here
    · exact .inr (.inr (.inr (.inr (answered _ here))))

/-- Everything that a turn shows is about its connection. -/
theorem connection_turnEvents : ∀ e ∈ s.turnEvents service now i t m, e.connection = i := by
  intro e member
  rcases mem_turnEvents member with ⟨_, read⟩ | opened | dropped | polled | ⟨response, about, rfl⟩
  · exact connection_readEvents service i s e read
  · exact connection_openEvents i s m.session e opened
  · exact connection_dropEvents i s e dropped
  · exact connection_pollEvents service now i s e polled
  · rfl

/-- What a turn shows of requests and of the secret, it shows by reading. -/
theorem mem_readEvents {e : Event} (member : e ∈ s.turnEvents service now i t m)
    (read : (∃ body, e = .decoded i body) ∨ e = .authenticated i) : t = .input ∧ e ∈ s.readEvents service i := by
  have opened : e ∉ openEvents i s m.session := by
    unfold openEvents
    rcases read with ⟨body, rfl⟩ | rfl <;> split <;> simp
  have dropped : e ∉ s.dropEvents i := by
    unfold dropEvents
    rcases read with ⟨body, rfl⟩ | rfl <;> split <;> simp
  have polled : e ∉ s.pollEvents service now i := by
    unfold pollEvents
    rcases read with ⟨body, rfl⟩ | rfl <;> split <;> (try split) <;> simp
  rcases mem_turnEvents member with here | here | here | here | ⟨response, about, rfl⟩
  · exact here
  · exact absurd here opened
  · exact absurd here dropped
  · exact absurd here polled
  · rcases read with ⟨body, impossible⟩ | impossible <;> cases impossible

private theorem responseTo?_dropEvents (i : Nat) (s : Session) :
    (s.dropEvents i).filterMap (Event.responseTo? i) = [] := by
  unfold dropEvents
  split
  · rw [List.filterMap_map]
    exact List.filterMap_eq_nil_iff.mpr fun _ _ => rfl
  · rfl

/-- A turn shows the response that it writes, if it writes one. -/
theorem responseTo?_turnEvents :
    (s.turnEvents service now i t m).filterMap (Event.responseTo? i) = m.sent.toList := by
  have sent : ∀ about, (m.sent.map fun response => Event.sent i response about).toList.filterMap (Event.responseTo? i) =
      m.sent.toList := by
    intro about
    cases m.sent <;> simp [Event.responseTo?]
  cases t with
  | look =>
    have polled : (s.pollEvents service now i).filterMap (Event.responseTo? i) = [] := by
      unfold pollEvents
      split
      · split
        · rw [List.filterMap_map]
          exact List.filterMap_eq_nil_iff.mpr fun _ _ => rfl
        · rfl
      · rfl
    rw [turnEvents, List.filterMap_append, polled, sent, List.nil_append]
  | input =>
    have read : (s.readEvents service i).filterMap (Event.responseTo? i) = [] := by
      unfold readEvents
      split
      · rfl
      · split <;> split <;> rfl
    have opened : (openEvents i s m.session).filterMap (Event.responseTo? i) = [] := by
      unfold openEvents
      split <;> rfl
    simp only [turnEvents, List.filterMap_append, read, opened, sent, List.nil_append]
    split
    · rw [responseTo?_dropEvents, List.nil_append]
    · rfl

private theorem reasoned_sent (other : m.AnswersNoWait) :
    Reasoned h (m.sent.map fun r => Event.sent i r none).toList := by
  cases sent : m.sent with
  | none => trivial
  | some r => exact ⟨other r sent, trivial⟩

/-- What is read is decoded as the first frame or after the secret was shown, and dispatched only after that. -/
private theorem Told.reasoned_read (told : Told h i s) : Reasoned h (s.readEvents service i) := by
  unfold readEvents
  cases found : s.frame? with
  | none => trivial
  | some body =>
    cases phase : s.phase with
    | greeting deadline =>
      refine ⟨.inr (told.greeting phase), ?_⟩
      simp only
      split
      · exact ⟨trivial, trivial⟩
      · trivial
    | serving =>
      have shown := told.serving phase
      refine ⟨.inl shown, ?_⟩
      simp only
      split
      · exact ⟨List.mem_append_left _ shown, trivial⟩
      · trivial
    | waiting handle place w => simp [frame?, phase] at found
    | ended how => simp [frame?, phase] at found

private theorem reasoned_dropEvents (i : Nat) (s : Session) : Reasoned h (s.dropEvents i) := by
  unfold dropEvents
  split
  · rename_i key place w _
    cases arrival : w.arrival with
    | none => simp [Barrier.dropEvents, arrival, Reasoned]
    | some a => simp [Barrier.dropEvents, arrival, Reasoned, Reason]
  · trivial

private theorem Told.reasoned_input (told : Told h i s) (other : m.AnswersNoWait) :
    Reasoned h (s.turnEvents service now i .input m) := by
  have opened : ∀ h, Reasoned h (openEvents i s m.session) := by
    intro h
    unfold openEvents
    split
    · exact ⟨trivial, trivial⟩
    · trivial
  have dropped : ∀ h, Reasoned h (if m.session.hasEnded then s.dropEvents i else []) := by
    intro h
    split
    · exact reasoned_dropEvents i s
    · trivial
  exact ((told.reasoned_read.append (opened _)).append (dropped _)).append (reasoned_sent other)

/-- A wait is polled for the first time only right after it began. -/
private theorem Told.reasoned_arrival (told : Told h i s) {key : PartitionKey} {place : Registry.Place}
    {w : Barrier.Wait} (found : s.openWait? = some (key, place, w)) (b : Barrier) :
    Reasoned h ((if w.arrival.isNone && !b.broken then [Barrier.Event.arrived i b.generation] else []).map
      (.barrier key)) := by
  split
  · rename_i first
    have fresh : w.arrival = none := by
      simp only [Bool.and_eq_true, Option.isNone_iff_eq_none] at first
      exact first.1
    exact ⟨told.opened found fresh, trivial⟩
  · trivial

private theorem Told.of_idle (idle : s.Idle) (shown : s.phase = .serving → .authenticated i ∈ h) : Told h i s where
  greeting := fun greeting => absurd greeting (idle.ne_greeting _)
  serving := shown
  waiting := fun waiting => absurd waiting (idle.ne_waiting _ _ _)
  opened := fun found _ => by
    rw [idle.openWait?] at found
    cases found

private theorem Told.of_greeting {deadline : Option Nat} (greeting : s.phase = .greeting deadline)
    (unseen : ∀ e ∈ h, e.connection ≠ i) : Told h i s where
  greeting := fun _ => unseen
  serving := fun serving => by
    rw [greeting] at serving
    cases serving
  waiting := fun waiting => by
    rw [greeting] at waiting
    cases waiting
  opened := fun found _ => by
    rw [openWait?_eq_none (s := s) (by simp [greeting])] at found
    cases found

private theorem Told.of_ended {how : Ending} (ended : s.phase = .ended how) : Told h i s :=
  .of_idle (.inr ⟨how, ended⟩) fun serving => by
    rw [ended] at serving
    cases serving

private theorem Told.of_waiting {handle : Handle} {key : PartitionKey} {place : Registry.Place} {w : Barrier.Wait}
    (waiting : s.phase = .waiting handle place w) (found : s.binding? handle = some (key, place))
    (shown : .authenticated i ∈ h) (opened : w.arrival = none → Opened h i key) : Told h i s where
  greeting := fun greeting => by
    rw [waiting] at greeting
    cases greeting
  serving := fun serving => by
    rw [waiting] at serving
    cases serving
  waiting := fun _ => shown
  opened := fun found' fresh => by
    rw [openWait?_of_waiting waiting found] at found'
    cases found'
    exact opened fresh

/-- What every turn shows is reasoned, and fits the session after it. -/
theorem Did.told (did : Did service now s t m) (bound : Bound service.registry s) (told : Told h i s) :
    Reasoned h (s.turnEvents service now i t m) ∧ Told (h ++ s.turnEvents service now i t m) i m.session := by
  cases did with
  | welcome greeting found admitted registry handles idle other =>
    refine ⟨told.reasoned_input other, .of_idle idle fun _ => ?_⟩
    simp [turnEvents, readEvents, found, greeting, admitted]
  | @reject _ _ deadline how greeting refused registry handles ended other =>
    refine ⟨?_, .of_ended ended⟩
    cases t with
    | input => exact told.reasoned_input other
    | look =>
      have closed := openWait?_eq_none (s := s) (by simp [greeting])
      simpa [turnEvents, pollEvents, waited?, closed] using reasoned_sent other
  | begin fresh =>
    rw [turnEvents_begin fresh, List.append_nil]
    exact ⟨trivial, .of_greeting rfl (told.greeting fresh)⟩
  | answer serving registry handles idle other =>
    exact ⟨told.reasoned_input other, .of_idle idle fun _ => List.mem_append_left _ (told.serving serving)⟩
  | issue serving got handles idle other =>
    exact ⟨told.reasoned_input other, .of_idle idle fun _ => List.mem_append_left _ (told.serving serving)⟩
  | command serving found which registry handles idle other =>
    exact ⟨told.reasoned_input other, .of_idle idle fun _ => List.mem_append_left _ (told.serving serving)⟩
  | @await _ body handle asked key place timeout serving found read bound' registry handles waiting silent =>
    have shown := told.serving serving
    have closed := openWait?_eq_none (s := s) (by simp [serving])
    have found' : m.session.binding? handle = some (key, place) := by simpa [binding?, handles] using bound'
    have opened := openWait?_of_waiting waiting found'
    have shows : s.turnEvents service now i .input m =
        [.decoded i body, .dispatched i (.wait handle asked), .opened i key] := by
      simp [turnEvents, readEvents, found, serving, read, openEvents, closed, opened, dropEvents, silent]
    refine ⟨told.reasoned_input (by simp [Moved.AnswersNoWait, silent]),
      .of_waiting waiting found' (List.mem_append_left _ shown) fun _ => ?_⟩
    exact ⟨h ++ [.decoded i body], handle, asked, [], by simp [shows], List.mem_append_left _ shown, by simp⟩
  | @putAside _ handle place w waiting registry handles phase silent =>
    have same := openWait?_congr phase handles
    obtain ⟨key, found⟩ := bound.waits waiting
    have opened := openWait?_of_waiting waiting found
    have shows : s.turnEvents service now i .input m = [] := by
      simp [turnEvents, readEvents, frame?, waiting, openEvents, opened, hasEnded, phase, silent]
    rw [shows, List.append_nil]
    exact ⟨trivial, fun greeting => told.greeting (phase ▸ greeting), fun serving => told.serving (phase ▸ serving),
      fun again => told.waiting (phase ▸ again), fun found => told.opened (same ▸ found)⟩
  | @leave _ handle place w how waiting registry handles ended other =>
    exact ⟨told.reasoned_input other, .of_ended ended⟩
  | @pending _ handle place w b w' waiting there polled registry handles phase silent =>
    obtain ⟨key, found⟩ := bound.waits waiting
    have opened := openWait?_of_waiting waiting found
    have shows : s.turnEvents service now i .look m =
        (if w.arrival.isNone && !b.broken then [Barrier.Event.arrived i b.generation] else []).map (.barrier key) := by
      simp [turnEvents, pollEvents, opened, there, Barrier.pollEvents, polled, silent]
    have found' : m.session.binding? handle = some (key, place) := by simpa [binding?, handles] using found
    refine ⟨by rw [shows]; exact told.reasoned_arrival opened b,
      .of_waiting phase found' (List.mem_append_left _ (told.waiting waiting)) fun fresh => ?_⟩
    obtain ⟨a, arrived⟩ := Barrier.arrival_of_pending polled
    rw [fresh] at arrived
    cases arrived
  | @finish _ handle place w b result waiting there polled registry handles idle answered =>
    obtain ⟨key, found⟩ := bound.waits waiting
    have opened := openWait?_of_waiting waiting found
    refine ⟨?_, .of_idle idle fun _ => List.mem_append_left _ (told.waiting waiting)⟩
    have shows : s.pollEvents service now i =
        (if w.arrival.isNone && !b.broken then [Barrier.Event.arrived i b.generation] else []).map (.barrier key) ++
          [.barrier key (.returned i (w.generation b) result)] := by
      simp [pollEvents, opened, there, Barrier.pollEvents, polled]
    simp only [turnEvents, shows, waited?, opened, there, Option.map_some]
    have returned : ∀ h, Reasoned h [.barrier key (.returned i (w.generation b) result)] := fun _ => ⟨trivial, trivial⟩
    refine ((told.reasoned_arrival opened b).append (returned _)).append ?_
    rcases answered with none | some
    · rw [none]
      trivial
    · rw [some]
      exact ⟨⟨_, result, (List.append_assoc ..).symm, rfl⟩, trivial⟩
  | stray waiting missing => exact absurd missing (bound.ne_none waiting)

/-- Whoever shows the secret shows it with its first frame. -/
private theorem Told.admitted (told : Told h i s) (member : .authenticated i ∈ s.turnEvents service now i t m) :
    ∃ body after, s.turnEvents service now i t m = .decoded i body :: .authenticated i :: after ∧
      (∀ e ∈ h, e.connection ≠ i) ∧ service.admits body = true := by
  obtain ⟨rfl, here⟩ := mem_readEvents member (.inr rfl)
  unfold readEvents at here
  cases found : s.frame? with
  | none => simp [found] at here
  | some body =>
    cases phase : s.phase with
    | greeting deadline =>
      cases admits : service.admits body with
      | false => simp [found, phase, admits] at here
      | true =>
        have reads : s.readEvents service i = [.decoded i body, .authenticated i] := by
          simp [readEvents, found, phase, admits]
        have shows : s.turnEvents service now i .input m = .decoded i body :: .authenticated i ::
            (s.turnEvents service now i .input m).drop 2 := by
          simp [turnEvents, reads]
        exact ⟨body, _, shows, told.greeting phase, admits⟩
    | _ => cases read : Request.decode? body <;> simp [found, phase, read] at here

/-- A frame that is decoded while the secret is not shown does not show it. -/
private theorem Told.refused (told : Told h i s) {body : Bytes}
    (member : .decoded i body ∈ s.turnEvents service now i t m) :
    .authenticated i ∈ h ++ s.turnEvents service now i t m ∨ service.admits body = false := by
  obtain ⟨rfl, here⟩ := mem_readEvents member (.inl ⟨body, rfl⟩)
  cases found : s.frame? with
  | none => simp [readEvents, found] at here
  | some body' =>
    have same : body = body' := by
      unfold readEvents at here
      rw [found] at here
      simp only [List.mem_cons, Event.decoded.injEq, true_and] at here
      rcases here with same | other
      · exact same
      · split at other <;> split at other <;> simp at other
    subst same
    cases phase : s.phase with
    | greeting deadline =>
      cases admits : service.admits body with
      | false => exact .inr rfl
      | true => exact .inl (by simp [turnEvents, readEvents, found, phase, admits])
    | serving => exact .inl (List.mem_append_left _ (told.serving phase))
    | waiting handle place w => exact .inl (List.mem_append_left _ (told.waiting phase))
    | ended how => simp [frame?, phase] at found

/-- What a connection shows in one step, and the response that it writes, fit what was shown before. -/
structure Shown (service : Service) (h : List Event) (i : Nat) (es : List Event) (sent : Option Response)
    (after : Session) : Prop where
  about : ∀ e ∈ es, e.connection = i
  reasoned : Reasoned h es
  told : after.Told (h ++ es) i
  written : es.filterMap (Event.responseTo? i) = sent.toList
  admitted : .authenticated i ∈ es → ∃ body rest, es = .decoded i body :: .authenticated i :: rest ∧
    (∀ e ∈ h, e.connection ≠ i) ∧ service.admits body = true
  refused : ∀ {body}, .decoded i body ∈ es → .authenticated i ∈ h ++ es ∨ service.admits body = false

theorem Did.shown (did : Did service now s t m) (bound : Bound service.registry s) (told : Told h i s) :
    Shown service h i (s.turnEvents service now i t m) m.sent m.session where
  about := connection_turnEvents
  reasoned := (did.told bound told).1
  told := (did.told bound told).2
  written := responseTo?_turnEvents
  admitted := told.admitted
  refused := told.refused

/-- A connection that is cut off shows at most that its wait is given up. -/
theorem shown_dropEvents (service : Service) (h : List Event) (i : Nat) (s : Session) {after : Session} {how : Ending}
    (ended : after.phase = .ended how) : Shown service h i (s.dropEvents i) none after where
  about := connection_dropEvents i s
  reasoned := reasoned_dropEvents i s
  told := .of_ended ended
  written := responseTo?_dropEvents i s
  admitted := fun member => by
    unfold dropEvents at member
    split at member <;> simp at member
  refused := fun member => by
    unfold dropEvents at member
    split at member <;> simp at member

end Session
end Lockstep
