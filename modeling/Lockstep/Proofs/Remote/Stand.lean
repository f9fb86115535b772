import Lockstep.Proofs.Client.Turn
import Lockstep.Proofs.Remote.Sessions

namespace Lockstep.Remote
open Client

/-- The calls that are over. -/
def callsOf (rs : List Return) : List (PartitionKey × Call) :=
  rs.map fun r => (r.key, r.call)

/-- A session whose peer asks for nothing any more. -/
inductive Left (s : Session) (sent : Bytes) : Prop
  | asking (deadline : Option Nat) (hello : Bytes) : s.phase = .greeting deadline → s.backlog = [] →
      s.inlet.Holds sent (some hello) → Left s sent
  | idle : s.phase = .serving → s.backlog = [] → s.inlet.Holds sent none → Left s sent
  | ended (how : Session.Ending) : s.phase = .ended how → Left s sent

/-- The secret is under way, or the welcome is, or the connection has ended. -/
inductive Joining (config : ServerConfig) (h : Handshake) (s : Session) (sent down : Bytes) : Prop
  | asking (deadline : Option Nat) (hello : Bytes) : s.phase = .greeting deadline → s.Clear sent (some hello) →
      h.inlet.Open → h.inlet.Holds down none → Joining config h s sent down
  | welcomed : s.phase = .serving → s.Clear sent none → h.inlet.Open →
      h.inlet.Holds down (some (Response.welcome config.parties).encode) → Joining config h s sent down
  | rejected (how : Session.Ending) (body : Option Bytes) : s.phase = .ended how →
      (∀ b, body = some b → b = Session.rejection.encode) → h.inlet.Holds down body → Joining config h s sent down

private theorem readable_welcome {parties : Nat} (small : parties ≤ Json.maxNatural) : Readable (.welcome parties) :=
  .of_small small (by simp)

private theorem readable_rejection : Readable Session.rejection := by
  refine .of_small trivial fun code message same => ?_
  cases same
  decide

section
variable {config : ServerConfig} {h : Handshake} {s : Session} {sent down bytes : Bytes}

theorem Left.receive (left : Left s (bytes ++ sent)) :
    Left { s with inlet := s.inlet.push bytes } sent := by
  cases left with
  | asking deadline hello phase backlog holds => exact .asking deadline hello phase backlog holds.push
  | idle phase backlog holds => exact .idle phase backlog holds.push
  | ended how phase => exact .ended how phase

theorem Left.close (left : Left s sent) : Left { s with inlet := s.inlet.close, gone := true } sent := by
  cases left with
  | asking deadline hello phase backlog holds => exact .asking deadline hello phase backlog holds.close
  | idle phase backlog holds => exact .idle phase backlog holds.close
  | ended how phase => exact .ended how phase

theorem Left.closed (left : Left s sent) : s.openWait? = none := by
  refine Session.openWait?_eq_none fun h place w waiting => ?_
  cases left with
  | asking _ _ phase => simp [waiting] at phase
  | idle phase => simp [waiting] at phase
  | ended _ phase => simp [waiting] at phase

theorem Joining.left (joining : Joining config h s sent down) : Left s sent := by
  cases joining with
  | asking deadline hello phase clear => exact .asking deadline hello phase clear.backlog clear.holds
  | welcomed phase clear => exact .idle phase clear.backlog clear.holds
  | rejected how _ phase => exact .ended how phase

theorem Joining.receive (joining : Joining config h s (bytes ++ sent) down) :
    Joining config h { s with inlet := s.inlet.push bytes } sent down := by
  cases joining with
  | asking deadline hello phase clear goes holds => exact .asking deadline hello phase clear.push goes holds
  | welcomed phase clear goes holds => exact .welcomed phase clear.push goes holds
  | rejected how body phase told holds => exact .rejected how body phase told holds

theorem Joining.hear (joining : Joining config h s sent (bytes ++ down)) {closed : Bool}
    (ended : closed = true → s.hasEnded = true) :
    Joining config { h with inlet := Peer.hear.heard bytes closed h.inlet } s sent down := by
  cases joining with
  | asking deadline hello phase clear goes holds =>
    have goesOn : closed = false := by
      cases closed with
      | false => rfl
      | true => simp [Session.hasEnded, phase] at ended
    subst goesOn
    exact .asking deadline hello phase clear goes holds.push
  | welcomed phase clear goes holds =>
    have goesOn : closed = false := by
      cases closed with
      | false => rfl
      | true => simp [Session.hasEnded, phase] at ended
    subst goesOn
    exact .welcomed phase clear goes holds.push
  | rejected how body phase told holds =>
    cases closed with
    | false => exact .rejected how body phase told holds.push
    | true => exact .rejected how body phase told holds.push.close

variable {service : Service} {now : Nat} {t : Session.Turn} {m : Session.Moved}

/-- No turn before the first request, or after the last one, concerns the barriers. -/
theorem Left.turn (left : Left s sent) (bound : Session.Bound service.registry s)
    (moved : s.turn service now t = some m) :
    Left m.session sent ∧ m.registry = service.registry ∧ m.session.handles = s.handles := by
  have talk := Session.turn_talk bound moved
  cases left with
  | ended how phase =>
    rw [Session.turn_of_ended (Session.hasEnded_of_ended phase)] at moved
    cases moved
  | asking deadline hello phase backlog holds =>
    refine ⟨?_, (Session.turn_did moved).first phase⟩
    rcases talk.first phase with ⟨body, framed, _, session⟩ | ⟨_, how, ended⟩ | rfl
    · have item : s.inlet.next.1 = .frame body := by
        cases found : s.inlet.next.1 <;> simp_all [Session.frame?]
      obtain ⟨_, arrived, after⟩ := holds.of_frame (Prod.ext item rfl)
      have same : s.taken = { s with inlet := s.inlet.next.2 } := by simp [Session.taken, phase]
      rw [session, same, arrived]
      exact .idle rfl backlog after
    · exact .ended how ended
    · exact .asking _ hello rfl backlog holds
  | idle phase backlog holds =>
    have unframed : s.frame? = none := by
      cases found : s.inlet.next.1 with
      | frame b =>
        obtain ⟨impossible, _⟩ := holds.of_frame (Prod.ext found rfl)
        cases impossible
      | _ => simp [Session.frame?, phase, backlog, found]
    cases talk with
    | closing _ _ _ _ ended =>
      have kept : m.registry = service.registry ∧ m.session.handles = s.handles := by
        simp only [Session.turn, Session.takeInput, phase, backlog, Session.takeItem] at moved
        cases found : s.inlet.next.1 with
        | pending => simp [found] at moved
        | frame b => simp [Session.frame?, phase, backlog, found] at unframed
        | failed failure =>
          simp only [found, Option.some.injEq] at moved
          rw [← moved]
          simp [Session.finish, Session.abandon]
        | finished =>
          simp only [found, Option.some.injEq] at moved
          rw [← moved]
          simp [Session.finish, Session.abandon]
      exact ⟨.ended _ ended, kept⟩
    | served _ framed =>
      rw [unframed] at framed
      cases framed
    | malformed _ framed =>
      rw [unframed] at framed
      cases framed
    | welcomed phase' | refused phase' | begun phase' | aside phase' | left phase' | pending phase' | returned phase'
    | unheard phase' =>
      rw [phase] at phase'
      cases phase'

theorem Joining.turn (joining : Joining config h s sent down) (same : service.config = config)
    (parties : config.parties ≤ Json.maxNatural) (bound : Session.Bound service.registry s)
    (moved : s.turn service now t = some m) :
    Joining config h m.session sent (down ++ (m.sent.map Server.frameOf).getD []) := by
  cases joining with
  | rejected how body phase =>
    rw [Session.turn_of_ended (Session.hasEnded_of_ended phase)] at moved
    cases moved
  | welcomed phase clear =>
    rw [(clear.quiet phase).1] at moved
    cases moved
  | asking deadline hello phase clear goes holds =>
    rcases (Session.turn_talk bound moved).first phase with
      ⟨body, framed, told, session⟩ | ⟨told, how, ended⟩ | rfl
    · rcases clear.holds.next_cases clear.goes with ⟨b, i', _, arrived, found, open_, after⟩ | ⟨_, i', pending, _⟩
      · have taken : s.taken = { s with inlet := i' } := by simp [Session.taken, phase, found]
        rw [session, taken, told, arrived, same]
        exact .welcomed rfl ⟨clear.gone, open_, after, clear.backlog⟩ goes
          (holds.write (readable_welcome parties).fits)
      · simp [Session.frame?, phase, pending] at framed
    · rcases told with silent | told
      · rw [silent]
        exact .rejected how none ended (by simp) (by simpa using holds)
      · rw [told]
        refine .rejected how (some Session.rejection.encode) ended ?_ (holds.write readable_rejection.fits)
        rintro b same
        exact (Option.some.inj same).symm
    · exact .asking _ hello rfl (clear.at_phase _) goes (by simpa [Session.begin] using holds)

theorem hear_response {i i' : Frame.Inlet} {response : Response} (found : i.next = (.frame response.encode, i'))
    (readable : Readable response) : hear i = (.response response, i') :=
  hear_readable found readable.decoded

/-- Who is welcome has a connection on which nothing is under way. -/
theorem Joining.joined (joining : Joining config h s sent down) (parties : config.parties ≤ Json.maxNatural)
    {channel : Channel PartitionKey} (turned : h.turn now = some (.ok channel)) :
    (∃ inlet, channel = { parties := config.parties, inlet } ∧ inlet.Open ∧ inlet.Holds down none) ∧
      s.phase = .serving ∧ s.Clear sent none := by
  unfold Handshake.turn at turned
  cases joining with
  | asking deadline hello phase clear goes holds =>
    obtain ⟨i', pending⟩ := holds.next_none goes
    rw [hear_pending pending] at turned
    by_cases late : h.deadline ≤ now
    · simp [late] at turned
    · simp [late] at turned
  | welcomed phase clear goes holds =>
    rcases holds.next_cases goes with ⟨b, i', here, arrived, found, open_, after⟩ | ⟨_, i', pending, _⟩
    · obtain rfl : (Response.welcome config.parties).encode = b := Option.some.inj here
      rw [hear_response found (readable_welcome parties)] at turned
      simp only [Client.welcomed, Option.some.injEq, Except.ok.injEq] at turned
      rw [arrived]
      exact ⟨⟨i', turned.symm, open_, after⟩, phase, clear⟩
    · rw [hear_pending pending] at turned
      by_cases late : h.deadline ≤ now
      · simp [late] at turned
      · simp [late] at turned
  | rejected how body phase told holds =>
    -- what a rejected worker hears is no welcome
    cases item : h.inlet.next.1 with
    | frame b =>
      obtain ⟨here, _⟩ := holds.of_frame (Prod.ext item rfl)
      obtain rfl := told b here
      rw [hear_response (Prod.ext item rfl) readable_rejection] at turned
      simp [Client.welcomed, Session.rejection] at turned
    | failed failure =>
      simp [hear_failed (Prod.ext item rfl)] at turned
    | finished =>
      simp [hear_finished (Prod.ext item rfl)] at turned
    | pending =>
      rw [hear_pending (Prod.ext item rfl)] at turned
      by_cases late : h.deadline ≤ now
      · simp [late] at turned
      · simp [late] at turned

end

/-- How far the call is that owns the connection, if there is one. -/
inductive Progress (rs : List Return) (w : Wire) (c : Channel PartitionKey) (s : Session) (down : Bytes) : Prop
  /-- Nothing is under way. -/
  | free : (∀ p, c.calls.head? = some p → p.stage ≠ .receiving) → s.phase = .serving → s.Clear w.sent none →
      c.inlet.Holds down none → rs = w.returned → Progress rs w c s down
  | asked (p : Pending PartitionKey) (rest : List (Pending PartitionKey)) : c.calls = p :: rest →
      p.stage = .receiving → s.phase = .serving → s.Clear w.sent (some p.call.request.encode) →
      c.inlet.Holds down none → rs = w.returned → Progress rs w c s down
  | waiting (p : Pending PartitionKey) (rest : List (Pending PartitionKey)) (h : Handle) (timeout : Option Duration)
      (place : Registry.Place) (wait : Barrier.Wait) : c.calls = p :: rest → p.stage = .receiving →
      p.call = .wait h timeout → s.phase = .waiting h place wait → s.Clear w.sent none → c.inlet.Holds down none →
      rs = w.returned → Progress rs w c s down
  | answered (p : Pending PartitionKey) (rest : List (Pending PartitionKey)) (response : Response) :
      c.calls = p :: rest → p.stage = .receiving → s.phase = .serving → s.Clear w.sent none → Readable response →
      c.inlet.Holds down (some response.encode) → rs = w.returned ++ [⟨p.name, p.call, p.call.conclude response⟩] →
      Progress rs w c s down

/-- What a worker that has joined may rely on. -/
structure Joined (count : Nat) (rs : List Return) (w : Wire) (c : Channel PartitionKey) (s : Session) : Prop where
  usable : c.usable = true
  gone : c.gone = false
  goes : c.inlet.Open
  /-- Every key that was asked for was handed out once more. -/
  issued : (rs.filterMap Return.barrier?).length = s.keys.length
  /-- A handle leads to the barrier of the key that it was handed out for. -/
  handed : ∀ key h, (key, h) ∈ rs.filterMap Return.barrier? → keyOf? s.keys h = some key
  few : s.keys.length ≤ count
  proper : ∀ p ∈ c.calls, Proper s.keys p.name p.call
  queued : ∀ p ∈ c.calls.tail, p.stage = .queued
  made : w.made = callsOf w.returned ++ c.calls.map fun p => (p.name, p.call)

/-- How the two ends of a connection, and what is under way between them, stand to what the barriers themselves
    returned. -/
inductive Stands (config : ServerConfig) (count : Nat) (rs : List Return) (w : Wire) (s : Session) (down : Bytes) : Prop
  | joining (h : Handshake) : w.peer = .joining h → w.made = [] → w.returned = [] → rs = [] → s.handles = #[] →
      Joining config h s w.sent down → Stands config count rs w s down
  | worker (c : Channel PartitionKey) : w.peer = .worker c → Joined count rs w c s → Progress rs w c s down →
      Stands config count rs w s down
  | nobody : w.peer = .nobody → rs = w.returned → w.made = callsOf w.returned → Left s w.sent →
      Stands config count rs w s down

end Lockstep.Remote
