import Lockstep.Proofs.Server.Requests

/-!
# Handles

On each connection handles are numbered from 1 on, in the order in which barriers
were asked for, and a handle stands for the key that it was asked for. What is
asked of a handle concerns the barrier of this key and no other. Two handles, on
whatever connections, lead to the same barrier when their keys are equal, and
only then.
-/
namespace Lockstep

/-- The handle that a response issues, and the number of parties that it tells. -/
def Response.handle? : Response → Option (Handle × Nat)
  | .handle h parties => some (h, parties)
  | _ => none

namespace Registry

/-- The barrier of a key is what `f` makes of it, and all others are as they were. -/
structure OnlyAt (r : Registry) (key : PartitionKey) (f : Barrier → Barrier) (r' : Registry) : Prop where
  known : ∃ place, r.find? key = some place
  here : r'.barrierFor key = f (r.barrierFor key)
  elsewhere : ∀ other, other ≠ key → r'.barrierFor other = r.barrierFor other
  places : ∀ other, r'.find? other = r.find? other

variable {r : Registry} {key : PartitionKey} {place : Place}

private theorem OnlyAt.same (found : r.find? key = some place) : r.OnlyAt key (fun b => b) r :=
  ⟨⟨place, found⟩, rfl, fun _ _ => rfl, fun _ => rfl⟩

private theorem OnlyAt.put (found : r.find? key = some place) {f : Barrier → Barrier} {b : Barrier}
    (made : b = f (r.barrierFor key)) : r.OnlyAt key f (r.put place b) where
  known := ⟨place, found⟩
  here := by rw [barrierFor_put found, if_pos rfl, made]
  elsewhere := fun other different => by rw [barrierFor_put found, if_neg different]
  places := r.find?_put place b

theorem OnlyAt.update (found : r.find? key = some place) (f : Barrier → Barrier × Meter) :
    r.OnlyAt key (fun b => (f b).1) (r.update place f).1 := by
  rw [update_eq found]
  exact .put found rfl

end Registry

namespace Server

variable {config : ServerConfig} {s s' : Server} {i : Nat} {h es : List Event} {request : Request} {line : Line}
  {keys : List PartitionKey} {response : Response}

/-- The keys that were asked for on a connection, in order. -/
def keysAsked (i : Nat) (h : List Event) : List PartitionKey :=
  keysOf (requestsOn i h)

/-- The handles that were issued on a connection, in order, and the numbers of parties that were told with them. -/
def handlesTold (i : Nat) (h : List Event) : List (Handle × Nat) :=
  (responsesTo i h).filterMap Response.handle?

/-- The first `count` handles. -/
def firstHandles (parties count : Nat) : List (Handle × Nat) :=
  (List.range count).map fun k => (k + 1, parties)

/-- Handles were issued in order, one for each key that was asked for; on a connection that has ended the last key
    may be without one. -/
structure Numbered (config : ServerConfig) (session : Session) (asked : List PartitionKey) (told : List (Handle × Nat)) :
    Prop where
  keys : session.hasEnded = false → session.keys = asked
  handles : ∃ count, told = firstHandles config.parties count ∧ count ≤ asked.length ∧
    (session.hasEnded = false → count = asked.length)

section
variable {session session' : Session} {asked : List PartitionKey} {told : List (Handle × Nat)}

private theorem Numbered.new (config : ServerConfig) : Numbered config .new [] [] :=
  ⟨fun _ => rfl, 0, rfl, Nat.le_refl 0, fun _ => rfl⟩

/-- No key is asked for. -/
private theorem Numbered.quiet (numbered : Numbered config session asked told) (live : session.hasEnded = false)
    (same : session'.hasEnded = false → session'.keys = session.keys) : Numbered config session' asked told where
  keys := fun live' => (same live').trans (numbered.keys live)
  handles := by
    obtain ⟨count, all, _, every⟩ := numbered.handles
    exact ⟨count, all, Nat.le_of_eq (every live), fun _ => every live⟩

private theorem Numbered.congr (numbered : Numbered config session asked told) (phase : session'.phase = session.phase)
    (handles : session'.handles = session.handles) : Numbered config session' asked told := by
  have live : session'.hasEnded = session.hasEnded := by simp [Session.hasEnded, phase]
  have keys : session'.keys = session.keys := by rw [Session.keys, handles, Session.keys]
  refine ⟨?_, ?_⟩
  · rw [live, keys]
    exact numbered.keys
  · rw [live]
    exact numbered.handles

/-- The connection ends; a key may have been asked for in vain. -/
private theorem Numbered.ended (numbered : Numbered config session asked told) (ended : session'.hasEnded = true)
    (more : List PartitionKey) : Numbered config session' (asked ++ more) told where
  keys := fun live => by simp [ended] at live
  handles := by
    obtain ⟨count, all, some, _⟩ := numbered.handles
    refine ⟨count, all, ?_, fun live => by simp [ended] at live⟩
    rw [List.length_append]
    exact Nat.le_add_right_of_le some

/-- The next key gets the next handle. -/
private theorem Numbered.issue (numbered : Numbered config session asked told) (live : session.hasEnded = false)
    {key : PartitionKey} (keys : session'.keys = session.keys ++ [key]) :
    Numbered config session' (asked ++ [key]) (told ++ [(asked.length + 1, config.parties)]) where
  keys := fun _ => by rw [keys, numbered.keys live]
  handles := by
    obtain ⟨count, rfl, _, every⟩ := numbered.handles
    refine ⟨count + 1, ?_, ?_, fun _ => ?_⟩
    · rw [every live, firstHandles, firstHandles, List.range_succ, List.map_append]
      rfl
    · simp [every live]
    · simp [every live]

end

/-- Only the answer to a request for a barrier issues a handle. -/
private theorem handle?_of_answer {r : Registry} (answer : request.answer? r keys = some response) :
    response.handle?.toList = request.issues.map fun _ => (keys.length + 1, r.options.parties) := by
  have unissued : ∀ h f, (∀ key r, f key = some r → r.handle? = none) →
      Request.answer?.on keys h f = some response → response.handle? = none := by
    intro h f plain answered
    unfold Request.answer?.on at answered
    split at answered
    · exact plain _ _ answered
    · cases answered
      rfl
  cases request with
  | getBarrier key =>
    cases answer
    rfl
  | hello secret =>
    cases answer
    rfl
  | wait handle timeout =>
    rw [unissued handle _ (by simp) answer]
    rfl
  | status handle =>
    rw [unissued handle _ (by rintro key r ⟨⟩; rfl) answer]
    rfl
  | abort handle =>
    rw [unissued handle _ (by rintro key r ⟨⟩; rfl) answer]
    rfl
  | reset handle =>
    rw [unissued handle _ (by rintro key r ⟨⟩; rfl) answer]
    rfl

private theorem handle?_responseOf (result : Barrier.Result) : (Session.responseOf result).handle? = none := by
  cases result <;> rfl

section
variable {session : Session} {asked : List PartitionKey} {told : List (Handle × Nat)} {service : Service} {now : Nat}
  {t : Session.Turn} {m : Session.Moved}

/-- A request that is carried out asks for a key and gets the next handle, or asks for none. -/
private theorem Numbered.carried (numbered : Numbered config session asked told) (live : session.hasEnded = false)
    (parties : service.registry.options.parties = config.parties) (carried : session.taken.Carried service request m) :
    Numbered config m.session (asked ++ request.issues) (told ++ m.sent.toList.filterMap Response.handle?) := by
  cases carried with
  | answered response answer sent _ keys registry =>
    rw [Session.keys_taken, numbered.keys live] at answer keys
    have told' : m.sent.toList.filterMap Response.handle? =
        request.issues.map fun _ => (asked.length + 1, config.parties) := by
      rw [sent, ← parties, ← handle?_of_answer answer]
      cases handle : response.handle? <;> simp [handle]
    rw [told']
    cases request with
    | getBarrier key => exact numbered.issue live (keys.trans (by rw [numbered.keys live]; rfl))
    | _ =>
      simpa [Request.issues] using numbered.quiet live fun _ => keys.trans (by simp [Request.issues, numbered.keys live])
  | awaited h timeout key place asks bound sent session' registry =>
    subst asks
    rw [sent]
    simpa [Request.issues] using numbered.quiet live fun _ => by rw [session']; exact session.keys_taken
  | failed how sent ended why =>
    rw [sent]
    simpa using numbered.ended (Session.hasEnded_of_ended ended) request.issues

/-- A turn asks for one key at most. -/
private theorem Numbered.turn (numbered : Numbered config session asked told)
    (parties : service.registry.options.parties = config.parties) (bound : session.Bound service.registry)
    (moved : session.turn service now t = some m) :
    Numbered config m.session (asked ++ keysOf (if t = .input then session.request?.toList else []))
      (told ++ m.sent.toList.filterMap Response.handle?) := by
  have finished : ∀ {how}, m.session.phase = .ended how → m.sent.toList.filterMap Response.handle? = [] →
      Numbered config m.session (asked ++ keysOf (if t = .input then session.request?.toList else []))
        (told ++ m.sent.toList.filterMap Response.handle?) := by
    intro how ended silent
    rw [silent, List.append_nil]
    exact numbered.ended (Session.hasEnded_of_ended ended) _
  cases Session.turn_talk bound moved with
  | welcomed greeting first admitted sent session' registry =>
    have live : session.hasEnded = false := by simp [Session.hasEnded, greeting]
    have none : session.request? = none := by simp [Session.request?, greeting]
    have keys : m.session.keys = session.keys := by rw [session']; exact session.keys_taken
    rw [none, sent]
    simpa [keysOf, Response.handle?, List.filterMap_cons] using numbered.quiet live fun _ => keys
  | refused greeting sent ended =>
    refine finished ended ?_
    rcases sent with sent | ⟨sent, _⟩ <;> rw [sent] <;> rfl
  | begun fresh =>
    have live : session.hasEnded = false := by simp [Session.hasEnded, fresh]
    have next : Numbered config (session.begin service now).session asked told := numbered.quiet live fun _ => rfl
    simpa [keysOf, Session.begin] using next
  | @served _ body request serving frame read carried =>
    have asks : session.request? = some request := by simp [Session.request?, serving, frame, read]
    rw [asks]
    simpa [keysOf] using numbered.carried (Session.live_of_serving serving) parties carried
  | malformed serving frame read sent ended =>
    refine finished ended ?_
    rcases sent with sent | sent <;> rw [sent] <;> rfl
  | closing serving frame aside sent ended => exact finished ended (by rw [sent]; rfl)
  | aside waiting item sent session' registry =>
    have none : session.request? = none := by simp [Session.request?, waiting]
    rw [none, sent]
    simpa [keysOf] using numbered.quiet (Session.live_of_waiting waiting) fun _ => by
      rw [session']
      exact session.keys_taken
  | left waiting sent ended =>
    refine finished ended ?_
    rcases sent with sent | ⟨message, sent⟩ <;> rw [sent] <;> rfl
  | pending waiting there polled sent session' registry =>
    rw [sent]
    simpa [keysOf] using numbered.quiet (Session.live_of_waiting waiting) fun _ => by rw [session']; rfl
  | returned waiting there polled sent session' registry =>
    rw [sent]
    simpa [keysOf, handle?_responseOf] using
      numbered.quiet (Session.live_of_waiting waiting) fun _ => by rw [session']; rfl
  | unheard waiting there polled sent ended => exact finished ended (by rw [sent]; rfl)

end

private theorem numbered_kept (config : ServerConfig) : Kept config fun session requests responses =>
    Numbered config session (keysOf requests) (responses.filterMap Response.handle?) where
  new := .new config
  heard := .congr
  turned := fun numbered _ options bound moved => by
    have next := numbered.turn (congrArg Barrier.Options.parties options) bound moved
    simpa [keysOf] using next
  cut := fun numbered _ => by simpa using numbered.ended (Session.hasEnded_of_ended rfl) []

/-- On every connection handles are numbered in the order in which keys were asked for. -/
theorem numbered_of_run (config : ServerConfig) (secret : Secret) (address : Address) (complaint : Bytes → String)
    (ops : List Operation) (found : ((start config secret address complaint).run ops).lines[i]? = some line) :
    Numbered config line.session (keysAsked i ((start config secret address complaint).history ops))
      (handlesTold i ((start config secret address complaint).history ops)) :=
  (numbered_kept config).run secret address complaint ops found

/-- What a request does where these keys were asked for before, and what it is answered; a wait that begins has no
    answer yet. -/
inductive Faithful (service : Service) (keys : List PartitionKey) (r : Registry) (session : Session) :
    Request → Option Response → Prop
  | again (secret : String) : r = service.registry →
      Faithful service keys r session (.hello secret) (some (.ofFault Session.alreadyAuthenticated))
  /-- The next handle is issued for the key. Its barrier may be new. -/
  | issued {key : PartitionKey} {place : Registry.Place} : r.find? key = some place →
      session.binding? (keys.length + 1) = some (key, place) →
      (∀ other, r.barrierFor other = service.registry.barrierFor other) →
      Faithful service keys r session (.getBarrier key)
        (some (.handle (keys.length + 1) service.registry.options.parties))
  | unknown {request : Request} {handle : Handle} : request.handle? = some handle → keyOf? keys handle = none →
      r = service.registry → Faithful service keys r session request (some (.ofFault (Session.unknownHandle handle)))
  | waits {handle : Handle} (timeout : Option Nat) {key : PartitionKey} {place : Registry.Place} :
      keyOf? keys handle = some key → service.registry.find? key = some place → r = service.registry →
      session.openWait? = some (key, place, { timeout := timeout.orElse fun _ => service.config.waitTimeout }) →
      Faithful service keys r session (.wait handle timeout) none
  | status {handle : Handle} {key : PartitionKey} : keyOf? keys handle = some key → r = service.registry →
      Faithful service keys r session (.status handle) (some (.status (service.registry.barrierFor key).status))
  | abort {handle : Handle} {key : PartitionKey} : keyOf? keys handle = some key →
      service.registry.OnlyAt key (fun b => b.abort.1) r → Faithful service keys r session (.abort handle) (some .ok)
  | reset {handle : Handle} {key : PartitionKey} : keyOf? keys handle = some key →
      service.registry.OnlyAt key (fun b => b.reset.1) r → Faithful service keys r session (.reset handle) (some .ok)

/-- The answer is written, or it cannot be and the connection ends. -/
def Written (session session' : Session) (answer : Option Response) (sent : List Response) : Prop :=
  (session'.hasEnded = false ∧ sent = answer.toList) ∨
    session'.hasEnded = true ∧ sent = [] ∧ ∃ response, answer = some response ∧ session.writeFault? response ≠ none

section
variable {service : Service} {c : Session} {r : Registry}

private theorem written_reply (serving : c.phase = .serving) (r : Registry) (response : Response) (meter : Meter) :
    let m := c.reply r response meter
    m.registry = r ∧ m.session.handles = c.handles ∧ Written c m.session (some response) m.sent.toList := by
  intro m
  obtain ⟨registry, handles, _, _⟩ := Session.reply_eq r response meter serving
  refine ⟨registry, handles, ?_⟩
  rcases c.reply_cases r response meter with ⟨_, done⟩ | ⟨fault, sent, how, ended⟩
  · exact .inl ⟨by simpa [m, done] using Session.live_of_serving serving, by simp [m, done]⟩
  · exact .inr ⟨Session.hasEnded_of_ended ended, by simp [m, sent], response, rfl, fault⟩

/-- A request on a handle that was not issued changes nothing. -/
private theorem faithful_withBarrier (bound : c.Bound service.registry) (serving : c.phase = .serving) {h : Handle}
    (about : request.handle? = some h) (f : Registry.Place → Session.Moved)
    (does : ∀ key place, c.binding? h = some (key, place) → keyOf? c.keys h = some key →
      service.registry.find? key = some place → ∃ answer,
        Faithful service c.keys (f place).registry (f place).session request answer ∧
          Written c (f place).session answer (f place).sent.toList) :
    let m := c.withBarrier service.registry h f
    ∃ answer, Faithful service c.keys m.registry m.session request answer ∧ Written c m.session answer m.sent.toList := by
  intro m
  cases found : c.binding? h with
  | some e =>
    have same : m = f e.2 := by simp [m, Session.withBarrier, found]
    rw [same]
    exact does e.1 e.2 found (Session.keyOf?_of_binding found) (bound.find? found)
  | none =>
    have same : m = c.reply service.registry (.ofFault (Session.unknownHandle h)) {} := by
      simp [m, Session.withBarrier, found]
    obtain ⟨registry, _, written⟩ := written_reply serving service.registry (.ofFault (Session.unknownHandle h)) {}
    rw [same]
    exact ⟨_, .unknown about (Session.keyOf?_of_unbound found) registry, written⟩

/-- A request is carried out as its handle says. -/
private theorem dispatch_faithful (bound : c.Bound service.registry) (serving : c.phase = .serving)
    (positive : 0 < service.registry.options.parties) (request : Request) :
    let m := c.dispatch service request
    ∃ answer, Faithful service c.keys m.registry m.session request answer ∧ Written c m.session answer m.sent.toList := by
  cases request with
  | hello secret =>
    obtain ⟨registry, _, written⟩ := written_reply serving service.registry (.ofFault Session.alreadyAuthenticated) {}
    exact ⟨_, .again secret registry, written⟩
  | getBarrier key =>
    obtain ⟨r, place, meter, got⟩ : ∃ r place meter, service.registry.getOrCreate key = (r, some place, meter) := by
      rcases service.registry.getOrCreate_cases key with ⟨place, _, got⟩ | ⟨_, _, got⟩ | ⟨_, none, _⟩
      · exact ⟨_, _, _, got⟩
      · exact ⟨_, _, _, got⟩
      · omega
    obtain ⟨more, entered, same⟩ := Registry.getOrCreate_some got
    let c' : Session := { c with handles := c.handles.push (key, place) }
    have parties : (Response.handle c'.handles.size r.options.parties) =
        .handle (c.keys.length + 1) service.registry.options.parties := by
      simp [c', Session.keys, more.options]
    have step : c.dispatch service (.getBarrier key) =
        c'.reply r (.handle (c.keys.length + 1) service.registry.options.parties) meter := by
      simp only [Session.dispatch, Session.issue, got, ← parties, c']
    obtain ⟨registry, handles, written⟩ := written_reply (c := c') serving r
      (.handle (c.keys.length + 1) service.registry.options.parties) meter
    rw [step]
    refine ⟨_, .issued (by rw [registry]; exact entered) ?_ ?_, written⟩
    · rw [Session.binding?, handles]
      simp [c', Session.keys]
    · rw [registry]
      exact same
  | wait h timeout =>
    refine faithful_withBarrier bound serving rfl _ fun key place found known located => ?_
    refine ⟨none, .waits timeout known located rfl ?_, .inl ⟨rfl, rfl⟩⟩
    exact Session.openWait?_of_waiting rfl (by simpa [Session.binding?] using found)
  | status h =>
    refine faithful_withBarrier bound serving rfl _ fun key place found known located => ?_
    obtain ⟨registry, _, written⟩ :=
      written_reply serving service.registry (.status (service.registry.barrierFor key).status) {}
    simp only [Registry.barrier?_of_find? located]
    exact ⟨_, .status known registry, written⟩
  | abort h =>
    refine faithful_withBarrier bound serving rfl _ fun key place found known located => ?_
    obtain ⟨registry, _, written⟩ := written_reply serving (service.registry.update place Barrier.abort).1 .ok
      (service.registry.update place Barrier.abort).2
    exact ⟨_, .abort known (by rw [registry]; exact .update located Barrier.abort), written⟩
  | reset h =>
    refine faithful_withBarrier bound serving rfl _ fun key place found known located => ?_
    obtain ⟨registry, _, written⟩ := written_reply serving (service.registry.update place Barrier.reset).1 .ok
      (service.registry.update place Barrier.reset).2
    exact ⟨_, .reset known (by rw [registry]; exact .update located Barrier.reset), written⟩

end

/-- A wait is polled at the barrier of its key, and given up there when its connection ends. -/
structure WaitsAt (s : Server) (i : Nat) (line : Line) (key : PartitionKey) (w : Barrier.Wait) : Prop where
  looks : s.service.registry.OnlyAt key (fun b => (b.poll s.now w).1) (s.perform (.turn i .look)).service.registry
  otherwise : ∀ op, op = .turn i .input ∨ op = .cut i → ∃ line', (s.perform op).lines[i]? = some line' ∧
    s.service.registry.OnlyAt key (fun b => if line'.session.hasEnded then (b.drop w).1 else b)
      (s.perform op).service.registry

private theorem look_at_key (linked : s.Linked) (found : s.lines[i]? = some line) {handle : Handle} {key : PartitionKey}
    {place : Registry.Place} {w : Barrier.Wait} (waiting : line.session.phase = .waiting handle place w)
    (located : s.service.registry.find? key = some place) :
    s.service.registry.OnlyAt key (fun b => (b.poll s.now w).1) (s.perform (.turn i .look)).service.registry := by
  have there := Registry.barrier?_of_find? located
  cases moved : line.session.turn s.service s.now .look with
  | some m =>
    have registry : (s.perform (.turn i .look)).service.registry = m.registry := by
      rw [(acted_of_turn found moved).registry]
    have put : m.registry = s.service.registry.put place ((s.service.registry.barrierFor key).poll s.now w).1 := by
      cases Session.turn_did moved with
      | reject greeting => simp [waiting] at greeting
      | begin fresh => simp [waiting] at fresh
      | pending waiting' there' _ registry' =>
        rw [waiting, Session.Phase.waiting.injEq] at waiting'
        obtain ⟨rfl, rfl, rfl⟩ := waiting'
        rw [there, Option.some.injEq] at there'
        rw [registry', ← there']
      | finish waiting' there' _ registry' =>
        rw [waiting, Session.Phase.waiting.injEq] at waiting'
        obtain ⟨rfl, rfl, rfl⟩ := waiting'
        rw [there, Option.some.injEq] at there'
        rw [registry', ← there']
      | stray waiting' missing => exact absurd missing ((linked found).ne_none waiting')
    rw [registry, put]
    exact .put located rfl
  | none =>
    have registry : (s.perform (.turn i .look)).service.registry = s.service.registry := by
      rw [perform_turn_of_none (by simpa [found] using moved)]
    -- A poll that leaves the wait as it was leaves the barrier as it was.
    have still : ((s.service.registry.barrierFor key).poll s.now w).1 = s.service.registry.barrierFor key := by
      rcases polled : (s.service.registry.barrierFor key).poll s.now w with ⟨b, poll, meter⟩
      simp only [Session.turn, Session.look, waiting, Session.pollWait, there, polled] at moved
      cases poll with
      | pending w' =>
        obtain rfl : w' = w := by simpa using moved
        have pending : ((s.service.registry.barrierFor key).poll s.now w').2.1 = .pending w' := by rw [polled]
        rw [← Barrier.poll_unchanged pending, polled]
      | done result =>
        simp only [ite_eq_left_iff, reduceCtorEq, imp_false, not_not] at moved
        obtain ⟨_, _, idle, _⟩ := Session.reply_eq (s := { line.session with phase := .serving })
          (s.service.registry.put place b) (Session.responseOf result) meter rfl
        exact absurd moved (idle.ne_waiting _ _ _)
    rw [registry]
    exact ⟨⟨place, located⟩, still.symm, fun _ _ => rfl, fun _ => rfl⟩

private theorem waits_at_key (linked : s.Linked) (found : s.lines[i]? = some line) {handle : Handle}
    {key : PartitionKey} {place : Registry.Place} {w : Barrier.Wait}
    (waiting : line.session.phase = .waiting handle place w) (located : s.service.registry.find? key = some place) :
    WaitsAt s i line key w where
  looks := look_at_key linked found waiting located
  otherwise := by
    have live := Session.live_of_waiting waiting
    rintro op (rfl | rfl)
    · cases moved : line.session.turn s.service s.now .input with
      | none =>
        rw [perform_turn_of_none (by simpa [found] using moved)]
        exact ⟨line, found, by simpa [live] using Registry.OnlyAt.same located⟩
      | some m =>
        have acted := acted_of_turn found moved
        refine ⟨_, acted.here found, ?_⟩
        rw [acted.registry]
        cases Session.turn_did moved with
        | welcome greeting => simp [waiting] at greeting
        | reject greeting => simp [waiting] at greeting
        | answer serving => simp [waiting] at serving
        | issue serving => simp [waiting] at serving
        | command serving => simp [waiting] at serving
        | await serving => simp [waiting] at serving
        | putAside _ registry' _ phase =>
          have live' : m.session.hasEnded = false := Session.live_of_waiting (phase.trans waiting)
          rw [registry']
          simpa [live'] using Registry.OnlyAt.same located
        | leave waiting' registry' _ ended =>
          rw [waiting, Session.Phase.waiting.injEq] at waiting'
          obtain ⟨rfl, rfl, rfl⟩ := waiting'
          rw [registry']
          simpa [Session.hasEnded_of_ended ended] using Registry.OnlyAt.update located (·.drop w)
    · cases running : s.running with
      | true =>
        rw [perform_cut_of_none (.inl running)]
        exact ⟨line, found, by simpa [live] using Registry.OnlyAt.same located⟩
      | false =>
        have acted := acted_of_cut running found live
        refine ⟨_, acted.here found, ?_⟩
        rw [acted.registry, Session.abandon_of_waiting _ waiting]
        simpa [Session.hasEnded] using Registry.OnlyAt.update located (·.drop w)

/-- Where the handles of all connections lead. -/
structure HandlesLead (config : ServerConfig) (s : Server) (h : List Event) : Prop where
  /-- The handles that were issued are the first ones, in order; on a connection that has ended the last key that was
      asked for may be without one. -/
  numbers : ∀ i, ∃ count, handlesTold i h = firstHandles config.parties count ∧ count ≤ (keysAsked i h).length ∧
    ∀ line, s.lines[i]? = some line → line.session.hasEnded = false → count = (keysAsked i h).length
  /-- Each request comes from the frame that was decoded, and does what its handle says. -/
  requests : ∀ {op i request}, .dispatched i request ∈ s.events op → ∃ body line line' answer,
    .decoded i body ∈ s.events op ∧ Request.decode? body = some request ∧ s.lines[i]? = some line ∧
    (s.perform op).lines[i]? = some line' ∧
    Faithful s.service (keysAsked i h) (s.perform op).service.registry line'.session request answer ∧
    Written line.session line'.session answer (responsesTo i (s.events op))
  waits : ∀ {i line handle place w}, s.lines[i]? = some line → line.session.phase = .waiting handle place w →
    ∃ key, keyOf? (keysAsked i h) handle = some key ∧ s.service.registry.find? key = some place ∧ WaitsAt s i line key w
  /-- A handle leads to the barrier of the key that it was issued for. -/
  leads : ∀ {i line}, s.lines[i]? = some line → line.session.hasEnded = false → ∀ handle,
    line.session.binding? handle =
      (keyOf? (keysAsked i h) handle).bind fun key => (s.service.registry.find? key).map fun place => (key, place)
  /-- Handles lead to the same barrier when their keys are equal character by character. -/
  shared : ∀ {i i' : Nat} {line line' : Line} {handle handle' : Handle} {key key' : PartitionKey}
    {place place' : Registry.Place}, s.lines[i]? = some line → s.lines[i']? = some line' →
    line.session.binding? handle = some (key, place) → line'.session.binding? handle' = some (key', place') →
    (place = place' ↔ key.first.toList = key'.first.toList ∧ key.last.toList = key'.last.toList)

/-- The handles of each connection are numbered in the order in which its keys were asked for, and lead to the barriers
    of these keys. -/
theorem handles_lead_to_their_keys (config : ServerConfig) (secret : Secret) (address : Address)
    (complaint : Bytes → String) (positive : 0 < config.parties) (ops : List Operation) :
    HandlesLead config ((start config secret address complaint).run ops)
      ((start config secret address complaint).history ops) := by
  have turned := start_turned config secret address complaint ops
  have parties : ((start config secret address complaint).run ops).service.registry.options.parties = config.parties :=
    congrArg Barrier.Options.parties turned.more.options
  have chronicle := start_chronicle config secret address complaint ops
  have on : ∀ {i line}, ((start config secret address complaint).run ops).lines[i]? = some line →
      Numbered config line.session (keysAsked i ((start config secret address complaint).history ops))
        (handlesTold i ((start config secret address complaint).history ops)) :=
      numbered_of_run config secret address complaint ops
  generalize (start config secret address complaint).run ops = s at *
  generalize (start config secret address complaint).history ops = h at *
  have linked : s.Linked := turned.linked
  exact {
    numbers := by
      intro i
      cases found : s.lines[i]? with
      | none =>
        have responses := responsesTo_of_others (chronicle.unknown found)
        exact ⟨0, by simp [handlesTold, responses, firstHandles], Nat.zero_le _, by simp⟩
      | some line =>
        obtain ⟨count, all, some, every⟩ := (on found).handles
        refine ⟨count, all, some, ?_⟩
        intro line' same live
        rw [← Option.some.inj same] at live
        exact every live
    requests := by
      intro op i request member
      obtain ⟨rfl, line, takes⟩ := takes_of_dispatched member
      obtain ⟨outgoing, after⟩ := takes.after
      have live := Session.live_of_serving takes.serving
      obtain ⟨answer, faithful, written⟩ := dispatch_faithful
        ((linked takes.found).congr line.session.phase_taken line.session.handles_taken)
        (line.session.phase_taken.trans takes.serving) (by rw [parties]; exact positive) _
      rw [Session.keys_taken, (on takes.found).keys live] at faithful
      obtain ⟨body, decoded, read⟩ := takes.frame
      refine ⟨body, line, _, answer, decoded, read, takes.found, after, ?_, ?_⟩
      · rw [takes.service]
        exact faithful
      · rw [takes.responses]
        simpa [Written] using written
    waits := by
      intro i line handle place w found waiting
      obtain ⟨key, bound⟩ := (linked found).waits waiting
      have known := (linked found).find? bound
      refine ⟨key, ?_, known, waits_at_key linked found waiting known⟩
      rw [← (on found).keys (Session.live_of_waiting waiting)]
      exact Session.keyOf?_of_binding bound
    leads := by
      intro i line found live handle
      rw [← (on found).keys live, Session.binding?_keyOf]
      cases bound : line.session.binding? handle with
      | none => rfl
      | some e =>
        obtain ⟨key, place⟩ := e
        simp [(linked found).find? bound]
    shared := by
      intro i i' line line' handle handle' key key' place place' found found' bound bound'
      have known := (linked found).find? bound
      have known' := (linked found').find? bound'
      constructor
      · rintro rfl
        rw [Registry.find?_inj known known']
        exact ⟨rfl, rfl⟩
      · rintro ⟨first, last⟩
        obtain rfl : key = key' := by
          cases key
          cases key'
          simp_all [String.toList_inj]
        rw [known, Option.some.injEq] at known'
        exact known' }

/-- Two connections ask for barriers, the second one for a key that the first one asked for second. Then it uses a
    handle that only the first one has. -/
def asking (secret : Secret) : List Operation :=
  let bytes (requests : List Request) := (.hello secret.toBase64 :: requests).flatMap fun r => Frame.frame r.encode
  [.accept, .accept, .receive 0 (bytes [.getBarrier ⟨"a", "b"⟩, .getBarrier ⟨"a", "b "⟩]),
    .receive 1 (bytes [.getBarrier ⟨"a", "b "⟩, .status 2]), .turn 0 .input, .turn 1 .input, .turn 0 .input,
    .turn 0 .input, .turn 1 .input, .turn 1 .input]

theorem handles_lead_to_their_keys_blanks :
    let config : ServerConfig := { parties := 2 }
    let secret : Secret := ⟨List.replicate 32 7, rfl⟩
    let s := start config secret (.v4 127 0 0 1 50000) Request.complaint
    let h := s.history (asking secret)
    0 < config.parties ∧ HandlesLead config (s.run (asking secret)) h ∧
      keysAsked 0 h = [⟨"a", "b"⟩, ⟨"a", "b "⟩] ∧ handlesTold 0 h = [(1, 2), (2, 2)] ∧
      keysAsked 1 h = [⟨"a", "b "⟩] ∧
      responsesTo 1 h = [.welcome 2, .handle 1 2, .ofFault (Session.unknownHandle 2)] := by
  intro config secret s h
  have positive : 0 < config.parties := by decide
  have shown : keysAsked 0 h = [⟨"a", "b"⟩, ⟨"a", "b "⟩] ∧ handlesTold 0 h = [(1, 2), (2, 2)] ∧
      keysAsked 1 h = [⟨"a", "b "⟩] ∧
      responsesTo 1 h = [.welcome 2, .handle 1 2, .ofFault (Session.unknownHandle 2)] := by decide +kernel
  exact ⟨positive,
    handles_lead_to_their_keys config secret (.v4 127 0 0 1 50000) Request.complaint positive (asking secret), shown⟩

end Server
end Lockstep
