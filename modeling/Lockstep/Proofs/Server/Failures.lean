import Lockstep.Proofs.Message.RoundTrip
import Lockstep.Proofs.Server.Handles
import Lockstep.Proofs.Session.Endings

/-!
# Failures stay where they belong

A request that fails is answered with an error, and nothing else comes of it: the
barriers, the handles and all other connections are as they were, and the
connection goes on serving. A connection that ends with a fault ends with one
that concerns the connection itself.
-/
namespace Lockstep.Server

variable {s s' : Server} {i : Nat} {h es : List Event} {op : Operation} {line line' : Line} {request : Request}

/-- How a connection has ended, if it has: it was told nothing before it was rejected. -/
structure EndedWell (session : Session) (responses : List Response) : Prop where
  silent : ∀ {deadline}, session.phase = .greeting deadline → responses = []
  regular : ∀ {how}, session.phase = .ended how → how.Regular
  rejected : ∀ {why}, session.phase = .ended (.rejected why) → ∀ response ∈ responses, response = Session.rejection

/-- An end stays what it is. -/
private theorem LineStep.ended (step : LineStep s i line op line') {how : Session.Ending}
    (ended : line.session.phase = .ended how) : line'.session.phase = .ended how := by
  have closed := Session.hasEnded_of_ended ended
  cases step with
  | same => exact ended
  | received bytes => exact ended
  | closed gone which => exact ended
  | turned moved =>
    rw [Session.turn_of_ended closed] at moved
    cases moved
  | cut live =>
    rw [closed] at live
    cases live

/-- What an operation adds to the log is how connections have ended. -/
def Logs (s : Server) (op : Operation) : Prop :=
  ∃ ends, (s.perform op).log = s.log ++ ends ∧ ∀ {i how}, (i, how) ∈ ends →
    ∃ line', (s.perform op).lines[i]? = some line' ∧ line'.session.phase = .ended how

private theorem log_step (s : Server) (op : Operation) : s.Logs op := by
  have same : (s.perform op).log = s.log → s.Logs op := by
    intro nothing
    exact ⟨[], nothing.trans (List.append_nil s.log).symm, fun member => absurd member List.not_mem_nil⟩
  cases op with
  | accept =>
    refine same ?_
    simp only [perform, Server.accept]
    split <;> rfl
  | receive j bytes => exact same rfl
  | halfClose j => exact same rfl
  | close j => exact same rfl
  | advance ms => exact same rfl
  | stop => exact same rfl
  | cut j => exact same (s.log_of_cut j)
  | turn j t =>
    cases found : s.lines[j]? with
    | none => exact same (by rw [perform_turn_of_none (by simp [found])])
    | some line =>
      cases moved : line.session.turn s.service s.now t with
      | none => exact same (by rw [perform_turn_of_none (by simpa [found] using moved)])
      | some m =>
        refine ⟨_, log_of_turn found moved, ?_⟩
        intro i how member
        obtain ⟨rfl, ended⟩ := mem_logged.mp member
        exact ⟨_, (acted_of_turn found moved).here found, ended⟩

/-- What a turn ends in, and what a connection was told by then that it rejects. -/
private theorem turn_ends {session : Session} {service : Service} {now : Nat} {t : Session.Turn} {m : Session.Moved}
    (bound : session.Bound service.registry) (positive : 0 < service.registry.options.parties)
    (moved : session.turn service now t = some m) {how : Session.Ending} (ended : m.session.phase = .ended how) :
    how.Regular ∧ ∀ why, how = .rejected why → (∃ deadline, session.phase = .greeting deadline) ∧
      (m.sent = none ∨ m.sent = some Session.rejection) := by
  by_cases greeting : ∃ deadline, session.phase = .greeting deadline
  · obtain ⟨deadline, greeting⟩ := greeting
    obtain ⟨regular, told⟩ := Session.greeting_ends greeting moved
    refine ⟨regular how ended, ?_⟩
    rintro why rfl
    rcases told with admitted | told
    · exact (admitted _ ended).elim
    · exact ⟨⟨deadline, greeting⟩, told⟩
  · have admitted := Session.admitted_ends bound positive (fun deadline here => greeting ⟨deadline, here⟩) moved
    refine ⟨(admitted how ended).regular, ?_⟩
    rintro why rfl
    exact (admitted _ ended).elim

private theorem endedWell_kept {config : ServerConfig} (positive : 0 < config.parties) :
    Kept config fun session _ responses => EndedWell session responses where
  new := ⟨fun _ => rfl, by simp [Session.new], by simp [Session.new]⟩
  heard := by
    intro session session' requests responses well phase _
    refine ⟨?_, ?_, ?_⟩
    · rw [phase]
      exact well.silent
    · rw [phase]
      exact well.regular
    · rw [phase]
      exact well.rejected
  turned := by
    intro service now session t m requests responses well _ options bound moved
    have parties : 0 < service.registry.options.parties := by
      rw [options]
      exact positive
    have ends : ∀ {how}, m.session.phase = .ended how → _ := turn_ends bound parties moved
    refine ⟨?_, ?_, ?_⟩
    · intro deadline greeting
      obtain ⟨fresh, _, rfl⟩ := Session.begun_of_greeting bound moved greeting
      rw [well.silent fresh]
      rfl
    · intro how ended
      exact (ends ended).1
    · intro why ended
      obtain ⟨⟨deadline, greeting⟩, told⟩ := (ends ended).2 why rfl
      rw [well.silent greeting, List.nil_append]
      rcases told with told | told
      · simp [told]
      · simp [told]
  cut := by
    intro session requests responses _ _
    refine ⟨?_, ?_, ?_⟩
    · rintro deadline ⟨⟩
    · rintro how ⟨⟩
      trivial
    · rintro why ⟨⟩

/-- What is logged is how the connection has ended. -/
theorem logged_of_run {i : Nat} {how : Session.Ending} (s : Server)
    (all : ∀ {i how}, (i, how) ∈ s.log → ∃ line, s.lines[i]? = some line ∧ line.session.phase = .ended how)
    (ops : List Operation) (member : (i, how) ∈ (s.run ops).log) :
    ∃ line, (s.run ops).lines[i]? = some line ∧ line.session.phase = .ended how := by
  induction ops generalizing s with
  | nil => exact all member
  | cons op ops ih =>
    refine ih (s.perform op) ?_ member
    intro i how member
    obtain ⟨ends, grown, here⟩ := s.log_step op
    rw [grown, List.mem_append] at member
    rcases member with earlier | last
    · obtain ⟨line, found, ended⟩ := all earlier
      obtain ⟨line', there, step⟩ := line_step found op
      exact ⟨line', there, step.ended ended⟩
    · exact here last

/-- A request that is refused where these keys were asked for before, and why. -/
inductive Refused (keys : List PartitionKey) : Request → Fault → Prop
  | again (secret : String) : Refused keys (.hello secret) Session.alreadyAuthenticated
  | unknown {request : Request} {handle : Handle} : request.handle? = some handle → keyOf? keys handle = none →
      Refused keys request (Session.unknownHandle handle)

/-- A wait that finds its barrier broken, when it arrives or afterwards. -/
inductive FindsBroken (b : Barrier) (w : Barrier.Wait) : Barrier.Failure → Prop
  | before : w.arrival = none → b.broken = true → FindsBroken b w (.brokenBefore b.generation)
  | during {a : Barrier.Arrival} : w.arrival = some a → b.outcome? a.generation = some .broken →
      FindsBroken b w (.brokenDuring a.generation)

/-- With this operation a connection is told of a failure, and nothing else comes of it. -/
structure Contained (s : Server) (op : Operation) (i : Nat) (line : Line) (fault : Fault) : Prop where
  service : (s.perform op).service = s.service
  others : ∀ j, j ≠ i → (s.perform op).lines[j]? = s.lines[j]?
  here : ∃ line', (s.perform op).lines[i]? = some line' ∧ line'.session.handles = line.session.handles ∧
    (line.session.gone = false →
      responsesTo i (s.events op) = [.ofFault fault] ∧ line'.session.phase = .serving)

section
variable {service : Service} {c : Session} {fault : Fault}

/-- An error that can be written is written, and the connection goes on. -/
private theorem reply_serving (serving : c.phase = .serving) (present : c.gone = false) {response : Response}
    (fits : response.encode.length ≤ Frame.maxBody) (r : Registry) (meter : Meter) :
    (c.reply r response meter).sent = some response ∧ (c.reply r response meter).session.phase = .serving := by
  have written : c.writeFault? response = none := by simp [Session.writeFault?, Nat.not_lt.mpr fits, present]
  rcases c.reply_cases r response meter with ⟨_, done⟩ | ⟨fault, _⟩
  · exact ⟨by rw [done], by rw [done]; exact serving⟩
  · exact absurd written fault

private theorem dispatch_refused (refused : Refused c.keys request fault) :
    c.dispatch service request = c.reply service.registry (.ofFault fault) {} := by
  cases refused with
  | again secret => rfl
  | @unknown _ handle about unissued =>
    have missing : c.binding? handle = none := by simpa [Session.binding?_keyOf] using unissued
    have told : ∀ f, c.withBarrier service.registry handle f =
        c.reply service.registry (.ofFault (Session.unknownHandle handle)) {} := fun f => by
      simp only [Session.withBarrier, missing]
    cases request with
    | hello secret => cases about
    | getBarrier key => cases about
    | wait h timeout =>
      cases about
      exact told _
    | status h =>
      cases about
      exact told _
    | abort h =>
      cases about
      exact told _
    | reset h =>
      cases about
      exact told _

private theorem Refused.fits {keys : List PartitionKey} {body : Bytes} (refused : Refused keys request fault)
    (read : Request.decode? body = some request) : (Response.ofFault fault).encode.length ≤ Frame.maxBody := by
  cases refused with
  | again secret =>
    refine Response.encode_fits trivial ?_
    rintro code message ⟨⟩
    decide
  | unknown about _ =>
    refine Response.ofFault_fits (Request.handle?_le read about) rfl ?_
    show "Unknown barrier handle".length + "handle ".length + " was not issued on this connection".length ≤ 20000
    decide

/-- A poll that finds the barrier broken leaves it as it is. -/
private theorem FindsBroken.poll {b : Barrier} {w : Barrier.Wait} {why : Barrier.Failure} (finds : FindsBroken b w why)
    (now : Nat) : ∃ meter, b.poll now w = (b, .done (.failed why), meter) := by
  cases finds with
  | before first broken => exact ⟨_, by simp [Barrier.poll, first, Barrier.arrive, broken]; rfl⟩
  | during arrived known => exact ⟨_, Barrier.poll_of_outcome arrived known now⟩

end

-- No response is to be computed from here on.
attribute [local irreducible] Session.reply

private theorem contained_request {keys : List PartitionKey} (known : line.session.keys = keys) {fault : Fault}
    (takes : Takes s i request (s.events op) (s.perform op) line) (refused : Refused keys request fault) :
    Contained s op i line fault := by
  have refused' : Refused line.session.taken.keys request fault := by rwa [Session.keys_taken, known]
  have serving : line.session.taken.phase = .serving := line.session.phase_taken.trans takes.serving
  have done : line.session.taken.dispatch s.service request = _ := dispatch_refused refused'
  obtain ⟨registry, handles, _, _⟩ := Session.reply_eq s.service.registry (.ofFault fault) {} serving
  obtain ⟨outgoing, after⟩ := takes.after
  obtain ⟨body, _, read⟩ := takes.frame
  refine ⟨?_, takes.others, _, after, ?_, ?_⟩
  · rw [takes.service, done, registry]
  · rw [done, handles, Session.handles_taken]
  · intro present
    obtain ⟨sent, phase⟩ := reply_serving serving (line.session.gone_taken.trans present) (refused.fits read)
      s.service.registry {}
    rw [takes.responses, done, sent]
    exact ⟨rfl, phase⟩

private theorem contained_wait (linked : s.Linked) (found : s.lines[i]? = some line) {key : PartitionKey}
    {place : Registry.Place} {w : Barrier.Wait} (opened : line.session.openWait? = some (key, place, w))
    {why : Barrier.Failure} (finds : FindsBroken (s.service.registry.barrierFor key) w why)
    (fits : (Response.ofFault why.fault).encode.length ≤ Frame.maxBody) :
    s.turn i .look ≠ none ∧ Contained s (.turn i .look) i line why.fault := by
  obtain ⟨handle, waiting, _, located⟩ := (linked found).waiting_of_openWait? opened
  have there := Registry.barrier?_of_find? located
  obtain ⟨meter, polled⟩ := finds.poll s.now
  let m := Session.reply { line.session with phase := .serving } s.service.registry (.ofFault why.fault) meter
  obtain ⟨registry, handles, _, _⟩ := Session.reply_eq (s := { line.session with phase := .serving })
    s.service.registry (.ofFault why.fault) meter rfl
  have moved : line.session.turn s.service s.now .look = some m := Session.look_over waiting there polled
  have acted := acted_of_turn found moved
  have responses : responsesTo i (s.events (.turn i .look)) = m.sent.toList := by
    simp only [events, found, moved]
    exact Session.responseTo?_turnEvents
  refine ⟨by simp [Server.turn, found, moved], ?_, ?_, _, acted.here found, handles, ?_⟩
  · rw [acted.service, registry]
  · intro j other
    exact acted.elsewhere found other
  · intro present
    obtain ⟨sent, phase⟩ := reply_serving (c := { line.session with phase := .serving }) rfl present fits
      s.service.registry meter
    rw [responses, sent]
    exact ⟨rfl, phase⟩

/-- A wait that begins changes nothing but its connection. -/
private theorem begun_wait {handle : Handle} {timeout : Option Nat}
    (takes : Takes s i (.wait handle timeout) (s.events op) (s.perform op) line) :
    (s.perform op).service = s.service ∧ (∀ j, j ≠ i → (s.perform op).lines[j]? = s.lines[j]?) ∧
      ∃ line', (s.perform op).lines[i]? = some line' ∧ line'.session.handles = line.session.handles := by
  have kept : ((line.session.taken.dispatch s.service (.wait handle timeout)).registry = s.service.registry) ∧
      (line.session.taken.dispatch s.service (.wait handle timeout)).session.handles = line.session.handles := by
    simp only [Session.dispatch, Session.withBarrier]
    split
    · exact ⟨rfl, line.session.handles_taken⟩
    · obtain ⟨registry, handles, _, _⟩ := Session.reply_eq s.service.registry
        (.ofFault (Session.unknownHandle handle)) {} (line.session.phase_taken.trans takes.serving)
      exact ⟨registry, handles.trans line.session.handles_taken⟩
  obtain ⟨outgoing, after⟩ := takes.after
  refine ⟨?_, takes.others, _, after, kept.2⟩
  rw [takes.service, kept.1]

/-- What failures come to. -/
structure FailuresContained (s : Server) (h : List Event) : Prop where
  /-- A barrier can be made for every key. -/
  made : ∀ key, ∃ r place meter, s.service.registry.getOrCreate key = (r, some place, meter)
  possible : ∀ {i : Nat} {line : Line}, s.lines[i]? = some line → line.session.phase ≠ .ended .impossible
  /-- A second hello and a handle that was not issued on the connection are answered, and that is all. -/
  refused : ∀ {op i request fault}, .dispatched i request ∈ s.events op → Refused (keysAsked i h) request fault →
    ∃ line, s.lines[i]? = some line ∧ Contained s op i line fault
  begun : ∀ {op i handle timeout}, .dispatched i (.wait handle timeout) ∈ s.events op →
    (s.perform op).service = s.service ∧ (∀ j, j ≠ i → (s.perform op).lines[j]? = s.lines[j]?) ∧
      ∃ line line', s.lines[i]? = some line ∧ (s.perform op).lines[i]? = some line' ∧
        line'.session.handles = line.session.handles
  /-- A wait that finds its barrier broken can be polled, is answered, and that is all. -/
  broken : ∀ {i : Nat} {line : Line} {key : PartitionKey} {place : Registry.Place} {w : Barrier.Wait}
    {why : Barrier.Failure}, s.lines[i]? = some line → line.session.openWait? = some (key, place, w) →
    FindsBroken (s.service.registry.barrierFor key) w why →
    (s.service.registry.barrierFor key).generation ≤ Json.maxNatural →
    s.turn i .look ≠ none ∧ Contained s (.turn i .look) i line why.fault
  /-- A connection that ends with a fault was rejected before the welcome, or broke the protocol, or was lost, or bytes
      could be neither read nor written. -/
  reported : ∀ {i how fault}, (i, how) ∈ s.log → how.fault? = some fault →
    fault.kind = .protocolViolation ∨ fault.kind = .connectionLost ∨ fault.kind = .ioError ∨
      fault.kind = .authenticationFailed ∧ ∀ parties, .welcome parties ∉ responsesTo i h

/-- A failure is told on its own connection and changes nothing else, and what ends a connection is a fault of the
    connection. -/
theorem failures_contained (config : ServerConfig) (secret : Secret) (address : Address) (complaint : Bytes → String)
    (valid : config.validate = .ok ()) (ops : List Operation) :
    FailuresContained ((start config secret address complaint).run ops)
      ((start config secret address complaint).history ops) := by
  have positive : 0 < config.parties := by
    refine Nat.pos_of_ne_zero fun none => ?_
    simp [ServerConfig.validate, ServerConfig.rules, Settings.firstBroken, none] at valid
  have turned := start_turned config secret address complaint ops
  have parties : 0 < ((start config secret address complaint).run ops).service.registry.options.parties := by
    rw [turned.more.options]
    exact positive
  have well : ∀ {i line}, ((start config secret address complaint).run ops).lines[i]? = some line →
      EndedWell line.session (responsesTo i ((start config secret address complaint).history ops)) :=
    (endedWell_kept positive).run secret address complaint ops
  have ended : ∀ {i how}, (i, how) ∈ ((start config secret address complaint).run ops).log →
      ∃ line, ((start config secret address complaint).run ops).lines[i]? = some line ∧
        line.session.phase = .ended how :=
    logged_of_run (start config secret address complaint) (by simp [start]) ops
  have numbered : ∀ {i line}, ((start config secret address complaint).run ops).lines[i]? = some line →
      Numbered config line.session (keysAsked i ((start config secret address complaint).history ops))
        (handlesTold i ((start config secret address complaint).history ops)) :=
      numbered_of_run config secret address complaint ops
  have sound := fun key => (story_of_run config secret address complaint positive ops key).1
  generalize (start config secret address complaint).run ops = s at *
  generalize (start config secret address complaint).history ops = h at *
  exact {
    made := by
      intro key
      rcases s.service.registry.getOrCreate_cases key with ⟨place, _, got⟩ | ⟨_, _, got⟩ | ⟨_, none, _⟩
      · exact ⟨_, _, _, got⟩
      · exact ⟨_, _, _, got⟩
      · omega
    possible := by
      intro i line found impossible
      exact (well found).regular impossible
    refused := by
      intro op i request fault member refused
      obtain ⟨rfl, line, takes⟩ := takes_of_dispatched member
      have known := (numbered takes.found).keys (Session.live_of_serving takes.serving)
      exact ⟨line, takes.found, contained_request known takes refused⟩
    begun := by
      intro op i handle timeout member
      obtain ⟨rfl, line, takes⟩ := takes_of_dispatched member
      obtain ⟨service, others, line', after, handles⟩ := begun_wait takes
      exact ⟨service, others, line, line', takes.found, after, handles⟩
    broken := by
      intro i line key place w why found opened finds counted
      refine contained_wait turned.linked found opened finds ?_
      cases finds with
      | before first broken => exact Response.broken_fits counted (.inl rfl)
      | @during a arrived known =>
        have blocked : s.blockedOn key i = some a := by
          rw [blockedOn_of_line found]
          simpa [Session.arrivalOn?, opened] using arrived
        exact Response.broken_fits (Nat.le_trans ((sound key).begun blocked) counted) (.inr rfl)
    reported := by
      intro i how fault logged reported
      obtain ⟨line, found, how'⟩ := ended logged
      refine (((well found).regular how').kind reported).imp_right (.imp_right (.imp_right ?_))
      rintro ⟨kind, why, rfl⟩
      refine ⟨kind, ?_⟩
      intro parties member
      cases (well found).rejected how' _ member }

/-- A connection says hello twice, uses a handle that it does not have, and waits at a barrier that it broke. Another
    one does not show the secret. -/
def failing (secret : Secret) : List Operation :=
  let bytes (requests : List Request) := requests.flatMap fun r => Frame.frame r.encode
  let hello := Request.hello secret.toBase64
  [.accept, .accept, .receive 0 (bytes [hello, hello, .status 1, .getBarrier ⟨"a", "b"⟩, .abort 1, .wait 1 none]),
    .receive 1 (bytes [.status 1])] ++ List.replicate 6 (.turn 0 .input) ++ [.turn 0 .look, .turn 1 .input]

theorem failures_contained_failing :
    let config : ServerConfig := { parties := 2 }
    let secret : Secret := ⟨List.replicate 32 7, rfl⟩
    let s := start config secret (.v4 127 0 0 1 50000) Request.complaint
    let h := s.history (failing secret)
    config.validate = .ok () ∧ FailuresContained (s.run (failing secret)) h ∧
      responsesTo 0 h = [.welcome 2, .ofFault Session.alreadyAuthenticated, .ofFault (Session.unknownHandle 1),
        .handle 1 2, .ok, .ofFault (Barrier.Failure.brokenBefore 0).fault] ∧
      (s.run (failing secret)).log = [(1, .rejected (.notHello "status"))] := by
  intro config secret s h
  have valid : config.validate = .ok () := rfl
  have shown : responsesTo 0 h = [.welcome 2, .ofFault Session.alreadyAuthenticated,
        .ofFault (Session.unknownHandle 1), .handle 1 2, .ok, .ofFault (Barrier.Failure.brokenBefore 0).fault] ∧
      (s.run (failing secret)).log = [(1, .rejected (.notHello "status"))] := by decide +kernel
  exact ⟨valid, failures_contained config secret (.v4 127 0 0 1 50000) Request.complaint valid (failing secret), shown⟩

end Lockstep.Server
