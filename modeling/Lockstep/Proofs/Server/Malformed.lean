import Lockstep.Proofs.Frame.Chunks
import Lockstep.Proofs.Message.Complaints
import Lockstep.Proofs.Server.Counted
import Lockstep.Proofs.Server.Handshake

/-!
# Frames that hold no request

A frame that holds no request ends its connection, nothing else comes of it, and
nothing behind it is read. The peer is told what is wrong with it in one error,
which may quote a text of the frame in full. If that does not fit into a frame
the peer is told nothing, and the connection counts as one that could not be
written to (`malformed_frame_dismissed`).
-/
namespace Lockstep
open Json

namespace Session

variable {service : Service} {s c : Session} {response : Response} {body : Bytes}

private theorem finish_of_idle (idle : ∀ h place w, c.phase ≠ .waiting h place w) (r : Registry) (how : Ending) :
    c.finish r how =
      { session := { c with phase := .ended how, backlog := [] }, registry := r, meter := how.meter } := by
  simp [finish, abandon_of_idle r idle, Meter.empty_add]

/-- A peer that takes bytes is told what fits into a frame. -/
private theorem finishWith_of_fits (there : c.gone = false) (fits : response.encode.length ≤ Frame.maxBody)
    (r : Registry) (how : Ending) : c.finishWith r response how = { c.finish r how with sent := some response } := by
  simp [finishWith, writeFault?, Nat.not_lt.mpr fits, there]

/-- What does not fit is not told, and the connection ends for that instead. -/
private theorem finishWith_of_oversized (long : Frame.maxBody < response.encode.length) (r : Registry) (how : Ending) :
    c.finishWith r response how = c.finish r (.unwritable Frame.Failure.oversized.fault) := by
  simp [finishWith, writeFault?, long]

private theorem request?_of_malformed (serving : s.phase = .serving) (framed : s.frame? = some body)
    (unread : Request.decode? body = none) : s.request? = none := by
  simp [request?, serving, framed, unread]

/-- A turn that takes a frame that holds no request ends with what is wrong with it. -/
private theorem turn_of_malformed (service : Service) (now : Nat) (serving : s.phase = .serving)
    (framed : s.frame? = some body) (unread : Request.decode? body = none) : s.turn service now .input = some
      (s.taken.finishWith service.registry (.malformed (service.complaint body))
        (.malformed (service.complaint body))) := by
  rw [turn_of_frame service now serving framed, serve, unread]
  rfl

end Session

namespace Server

variable {s : Server} {i : Nat} {line : Line} {body : Bytes} {told : List Response} {how : Session.Ending}

/-- The next turn takes this frame and ends the connection, which is told this, and nothing else comes of it. -/
structure Dismissed (s : Server) (i : Nat) (line : Line) (body : Bytes) (told : List Response) (how : Session.Ending) :
    Prop where
  possible : s.turn i .input ≠ none
  here : ∃ line', (s.perform (.turn i .input)).lines[i]? = some line' ∧ line'.session.phase = .ended how ∧
    line'.session.backlog = [] ∧ line'.outgoing = line.outgoing ++ told.flatMap frameOf
  others : ∀ j, j ≠ i → (s.perform (.turn i .input)).lines[j]? = s.lines[j]?
  service : (s.perform (.turn i .input)).service = s.service
  log : (s.perform (.turn i .input)).log = s.log ++ [(i, how)]
  meter : (s.perform (.turn i .input)).meter = s.meter + how.meter
  /-- Whatever happens later, the peer is told nothing more, and no other frame is read. -/
  shown : ∀ more, responsesTo i (s.history (.turn i .input :: more)) = told ∧
    (s.history (.turn i .input :: more)).filterMap (Event.decodedOn? i) = [body] ∧
    requestsOn i (s.history (.turn i .input :: more)) = []
  /-- Nothing that the connection could do later does anything. -/
  last : ∀ more op, (∃ t, op = .turn i t) ∨ op = .cut i →
    ((s.perform (.turn i .input)).run more).perform op = (s.perform (.turn i .input)).run more

/-- A turn that takes a frame and leaves the barriers alone, and with which the connection ends. -/
private theorem dismissed_of_turn (found : s.lines[i]? = some line) (framed : line.session.frame? = some body)
    (unasked : line.session.request? = none) {m : Session.Moved}
    (moved : line.session.turn s.service s.now .input = some m) (ended : m.session.phase = .ended how)
    (forgotten : m.session.backlog = []) (registry : m.registry = s.service.registry) (meter : m.meter = how.meter) :
    s.Dismissed i line body m.sent.toList how := by
  have acted := acted_of_turn found moved
  have closed := run_closed (acted.here found) (Session.hasEnded_of_ended ended)
  have shows : s.events (.turn i .input) = line.session.turnEvents s.service s.now i .input m := by
    simp [events, found, moved]
  refine ⟨by simp [Server.turn, found, moved], ⟨_, acted.here found, ended, forgotten, ?_⟩,
    fun j other => acted.elsewhere found other, ?_, ?_, by rw [acted.meter, meter], fun more => ?_,
    fun more op acts => ?_⟩
  · cases m.sent <;> simp
  · rw [acted.service, registry]
  · rw [log_of_turn found moved, logged, ended]
  · have silent := (closed more).1
    refine ⟨?_, ?_, ?_⟩
    · rw [history_cons, responsesTo_append, responsesTo_of_others silent, List.append_nil, shows, responsesTo,
        Session.responseTo?_turnEvents]
    · rw [history_cons, List.filterMap_append, decoded_of_others silent, List.append_nil, shows,
        Session.decoded_turnEvents, if_pos rfl, framed]
      rfl
    · rw [history_cons, requestsOn_append, requestsOn_of_others silent, List.append_nil, shows, requestsOn_turnEvents s,
        if_pos rfl, unasked]
      rfl
  · obtain ⟨_, line', final, ended'⟩ := closed more
    rcases acts with ⟨t, rfl⟩ | rfl
    · exact perform_turn_of_none (by simpa [final] using Session.turn_of_ended ended')
    · exact perform_cut_of_none (.inr (by simpa [final] using ended'))

/-- What comes of the next frame, which holds no request. -/
structure Denied (s : Server) (i : Nat) (line : Line) (body : Bytes) : Prop where
  /-- What is wrong is told as a violation of the protocol, and counts as one. -/
  violation : (∃ message, Response.malformed (s.service.complaint body) = .error .protocolViolation message) ∧
    (Session.Ending.malformed (s.service.complaint body)).fault?.map Fault.kind = some .protocolViolation
  /-- If it fits into a frame the peer is told so, and nothing else. -/
  told : (Response.malformed (s.service.complaint body)).encode.length ≤ Frame.maxBody →
    s.Dismissed i line body [.malformed (s.service.complaint body)] (.malformed (s.service.complaint body))
  /-- It fits if the parser says little. -/
  fits : (s.service.complaint body).length ≤ 0x20000 →
    (Response.malformed (s.service.complaint body)).encode.length ≤ Frame.maxBody
  /-- Otherwise the peer is told nothing, and the connection counts as one that cannot be written to. -/
  untold : Frame.maxBody < (Response.malformed (s.service.complaint body)).encode.length →
    s.Dismissed i line body [] (.unwritable Frame.Failure.oversized.fault)
  /-- It does not fit if the parser quotes a text that fills a frame. -/
  long : ∀ before quoted after, s.service.complaint body = before ++ quoted ++ after →
    Frame.maxBody < 25 + quoted.length → Frame.maxBody < (Response.malformed (s.service.complaint body)).encode.length

section
variable (found : s.lines[i]? = some line) (serving : line.session.phase = .serving)
  (framed : line.session.frame? = some body) (unread : Request.decode? body = none)
include found serving framed unread

private theorem dismissed_of_fits (there : line.session.gone = false)
    (fits : (Response.malformed (s.service.complaint body)).encode.length ≤ Frame.maxBody) :
    s.Dismissed i line body [.malformed (s.service.complaint body)] (.malformed (s.service.complaint body)) := by
  have moved := Session.turn_of_malformed s.service s.now serving framed unread
  have idle : ∀ h place w, line.session.taken.phase ≠ .waiting h place w := by simp [serving]
  rw [Session.finishWith_of_fits (line.session.gone_taken.trans there) fits, Session.finish_of_idle idle] at moved
  exact dismissed_of_turn found framed (Session.request?_of_malformed serving framed unread) moved rfl rfl rfl rfl

/-- What does not fit is not told, even to a peer that takes bytes. -/
private theorem dismissed_of_oversized
    (long : Frame.maxBody < (Response.malformed (s.service.complaint body)).encode.length) :
    s.Dismissed i line body [] (.unwritable Frame.Failure.oversized.fault) := by
  have moved := Session.turn_of_malformed s.service s.now serving framed unread
  have idle : ∀ h place w, line.session.taken.phase ≠ .waiting h place w := by simp [serving]
  rw [Session.finishWith_of_oversized long, Session.finish_of_idle idle] at moved
  exact dismissed_of_turn found framed (Session.request?_of_malformed serving framed unread) moved rfl rfl rfl rfl

end

/-- Every frame that holds no request, whether it has just come or was put aside, ends its connection and changes
    nothing else, and no frame behind it is read. Whatever the parser says is wrong, a peer that takes bytes is told so
    in one error if that fits into a frame. If it does not, as when a text is quoted that fills a frame, the peer is
    told nothing. -/
theorem malformed_frame_dismissed (s : Server) {i : Nat} {line : Line} {body : Bytes} (found : s.lines[i]? = some line)
    (serving : line.session.phase = .serving) (there : line.session.gone = false)
    (framed : line.session.frame? = some body) (unread : Request.decode? body = none) : s.Denied i line body where
  violation := ⟨⟨_, rfl⟩, rfl⟩
  told := dismissed_of_fits found serving framed unread there
  fits := Response.malformed_fits
  untold := dismissed_of_oversized found serving framed unread
  long := fun _ _ _ quotes => Response.malformed_long quotes

/-- A peer shows this secret. -/
def welcoming (secret : Secret) : List Operation :=
  showing secret ++ [.turn 0 .input]

/-- A request that would make a barrier stands behind a frame of an unknown type. -/
theorem malformed_frame_dismissed_launch :
    let secret : Secret := ⟨List.replicate 32 7, rfl⟩
    let body := typeAlone "launch"
    let bytes := Frame.frame body ++ Frame.frame (Request.getBarrier ⟨"a", "b"⟩).encode
    let s := (start { parties := 2 } secret (.v4 127 0 0 1 50000) Request.complaint).run
      (welcoming secret ++ [.receive 0 bytes])
    let message := "Malformed request frame: unknown variant `launch`, expected one of `hello`, `get_barrier`, " ++
      "`wait`, `status`, `abort`, `reset` at line 1 column 16"
    ∃ line, s.lines[0]? = some line ∧
      (line.session.phase = .serving ∧ line.session.gone = false ∧ line.session.frame? = some body ∧
        Request.decode? body = none) ∧
      s.Denied 0 line body ∧
      ∀ more, responsesTo 0 (s.history (.turn 0 .input :: more)) = [.error .protocolViolation message] := by
  intro secret body bytes s message
  have shown : (s.lines[0]?.map fun line => (line.session.phase, line.session.gone, line.session.frame?)) =
        some (.serving, false, some body) ∧ Request.decode? body = none ∧
      (s.service.complaint body).length ≤ 0x20000 ∧
      Response.malformed (s.service.complaint body) = .error .protocolViolation message := by decide +kernel
  obtain ⟨shown, unread, short, complaint⟩ := shown
  obtain ⟨line, found, facts⟩ := Option.map_eq_some_iff.mp shown
  simp only [Prod.mk.injEq] at facts
  obtain ⟨serving, there, framed⟩ := facts
  have denied := malformed_frame_dismissed s found serving there framed unread
  refine ⟨line, found, ⟨serving, there, framed, unread⟩, denied, fun more => ?_⟩
  rw [← complaint]
  exact ((denied.told (denied.fits short)).shown more).1

/-- So many letters. -/
def letters (n : Nat) : String :=
  String.ofList (List.replicate n 'x')

private theorem length_letters (n : Nat) : (letters n).length = n := by
  simp [letters]

private theorem length_typeAlone_letters (n : Nat) : (typeAlone (letters n)).length = n + 11 := by
  have letter : escapedChar 'x' = [120] := by decide
  simp [length_typeAlone, escaped, letters, letter]

/-- The next frame that comes is taken next where all that came was taken. -/
private theorem framed_of_receive (found : s.lines[i]? = some line) (serving : line.session.phase = .serving)
    (nothing : line.session.backlog = []) (goes : line.session.inlet.failed = false)
    (fits : line.session.inlet.reader.Fits) (quiet : line.session.inlet.unread = [])
    (small : body.length ≤ Frame.maxBody) :
    ∃ line', (s.perform (.receive i (Frame.frame body))).lines[i]? = some line' ∧ line'.session.phase = .serving ∧
      line'.session.gone = line.session.gone ∧ line'.session.frame? = some body := by
  have next := Frame.Inlet.next_push_frame goes fits quiet small
  refine ⟨{ line with session := { line.session with inlet := line.session.inlet.push (Frame.frame body) } }, ?_,
    serving, rfl, ?_⟩
  · rw [perform, Server.receive, getElem?_modifySession, if_pos rfl, found, Option.map_some]
  · simp only [Session.frame?, serving, nothing, next]

private theorem session_of_welcoming :
    let s := (start { parties := 2 } ⟨List.replicate 32 7, rfl⟩ (.v4 127 0 0 1 50000) Request.complaint).run
      (welcoming ⟨List.replicate 32 7, rfl⟩)
    s.lines[0]?.map Line.session = some { phase := .serving } ∧ s.log = [] := by decide +kernel

/-- A frame that is as long as a frame can be is of an unknown type. Its peer, which takes bytes, is told nothing, and
    the connection ends with a failure to write instead of a violation of the protocol. -/
theorem long_complaint_untold :
    let secret : Secret := ⟨List.replicate 32 7, rfl⟩
    let body := typeAlone (letters 1048565)
    let s := (start { parties := 2 } secret (.v4 127 0 0 1 50000) Request.complaint).run
      (welcoming secret ++ [.receive 0 (Frame.frame body)])
    body.length ≤ Frame.maxBody ∧ Request.decode? body = none ∧
      ∃ line, s.lines[0]? = some line ∧ line.session.phase = .serving ∧ line.session.gone = false ∧
        line.session.frame? = some body ∧ (∀ more, responsesTo 0 (s.history (.turn 0 .input :: more)) = []) ∧
        (s.perform (.turn 0 .input)).log = [(0, .unwritable Frame.Failure.oversized.fault)] ∧
        Frame.Failure.oversized.fault.kind = .ioError := by
  have length : (letters 1048565).length = 1048565 := length_letters _
  have whole : (typeAlone (letters 1048565)).length = 1048576 := length_typeAlone_letters _
  generalize letters 1048565 = name at length whole
  intro secret body s
  have small : body.length ≤ Frame.maxBody := Nat.le_of_eq whole
  have unknown : name ∉ requestNames := by
    intro member
    have brief : ∀ name ∈ requestNames, name.length ≤ 20 := by decide
    have := brief _ member
    omega
  have unread : Request.decode? body = none := Request.decode?_typeAlone unknown
  have long : Frame.maxBody < (Response.malformed (s.service.complaint body)).encode.length := by
    obtain ⟨place, complaint⟩ := Request.complaint_typeAlone unknown
    have said : s.service.complaint = Request.complaint := by
      rw [show s.service = _ from run_service _ _]
      rfl
    rw [said, complaint]
    refine Response.malformed_long (Complaint.unknownType_eq name place) ?_
    rw [length]
    decide
  obtain ⟨welcomed, unlogged⟩ := session_of_welcoming
  obtain ⟨line, found, session⟩ := Option.map_eq_some_iff.mp welcomed
  have sent : s =
      ((start { parties := 2 } secret (.v4 127 0 0 1 50000) Request.complaint).run (welcoming secret)).perform
        (.receive 0 (Frame.frame body)) := by
    rw [← run_nil (perform _ _), ← run_cons, ← run_append]
  have heard : ∀ (s : Server) bytes, (s.perform (.receive 0 bytes)).log = s.log := fun _ _ => rfl
  obtain ⟨line', found', serving, there, framed⟩ := framed_of_receive found (by rw [session]) (by rw [session])
    (by rw [session]) (by rw [session]; exact Frame.Reader.fits_new) (by rw [session]; rfl) small
  rw [← sent] at found'
  have dismissed := dismissed_of_oversized found' serving framed unread long
  refine ⟨small, unread, line', found', serving, there.trans (by rw [session]), framed,
    fun more => (dismissed.shown more).1, ?_, rfl⟩
  rw [dismissed.log, sent, heard, unlogged, List.nil_append]

end Server
end Lockstep
