import Lockstep.Proofs.Remote.Workers

namespace Lockstep

namespace Registry
namespace Run

variable {Name : Type} [DecidableEq Name] {r : Run (PartitionKey × Name)} {key : PartitionKey} {name : Name}

/-- What polling a wait comes to. -/
theorem use_poll {place : Place} {w : Barrier.Wait} {b : Barrier}
    (found : r.find? (key, name) = some ⟨(key, name), place, w⟩) (there : r.registry.barrier? place = some b) :
    (r.use key (.poll name)).registry = r.registry.put place (b.poll r.now w).1 ∧
      (r.use key (.poll name)).now = r.now ∧
      r.answer key (.poll name) = .polled (finished? (b.poll r.now w).2.1) ∧
      ∀ other, (r.use key (.poll name)).find? other = if other = (key, name) then
        match (b.poll r.now w).2.1 with
        | .pending w' => some ⟨(key, name), place, w'⟩
        | .done _ => none
      else r.find? other := by
  have answer : r.answer key (.poll name) = .polled (finished? (b.poll r.now w).2.1) := by
    simp [Run.answer, found, there]
  refine ⟨?_, ?_, answer, fun other => ?_⟩
  · simp only [use, perform, poll, found, there]
    split
    · rfl
    · rfl
  · simp only [use, perform, poll, found, there]
    split
    · rfl
    · rfl
  · simp only [use, perform, poll, found, there]
    cases (b.poll r.now w).2.1 with
    | pending w' =>
      show (r.put (key, name) w').find? other = _
      rw [find?_put, found]
      rfl
    | done result =>
      show (r.remove (key, name)).find? other = _
      rw [find?_remove]

/-- A wait that is made is the only thing that changes. -/
private theorem use_create {place : Place} (located : r.registry.find? key = some place)
    (absent : r.find? (key, name) = none) (timeout : Option Nat) :
    (r.use key (.create name timeout)).registry = r.registry ∧ (r.use key (.create name timeout)).now = r.now ∧
      ∀ other, (r.use key (.create name timeout)).find? other =
        if other = (key, name) then some ⟨(key, name), place, { timeout }⟩ else r.find? other := by
  have made : r.use key (.create name timeout) = r.create (key, name) place timeout := by
    simp [use, withBarrier, located, perform]
  rw [made]
  refine ⟨?_, ?_, find?_create absent place timeout⟩
  · simp [create, absent]
  · simp [create, absent]

end Run
end Registry

namespace Session

/-- The wait that is open, if it is one on this key, by the number of its connection. -/
def pendingOn? (s : Session) (key : PartitionKey) (i : Nat) : Option (Registry.Pending (PartitionKey × Nat)) :=
  match s.openWait? with
  | some (k, place, w) => if k = key then some ⟨(key, i), place, w⟩ else none
  | none => none

private theorem pendingOn?_of_serving {s : Session} (serving : s.phase = .serving) (key : PartitionKey) (i : Nat) :
    s.pendingOn? key i = none := by
  simp [pendingOn?, openWait?, serving]

private theorem pendingOn?_of_waiting {s : Session} {h : Handle} {place : Registry.Place} {w : Barrier.Wait}
    {k : PartitionKey} (waiting : s.phase = .waiting h place w) (found : s.binding? h = some (k, place))
    (key : PartitionKey) (i : Nat) :
    s.pendingOn? key i = if k = key then some ⟨(key, i), place, w⟩ else none := by
  simp [pendingOn?, openWait?_of_waiting waiting found]

theorem pendingOn?_congr {s s' : Session} (phase : s'.phase = s.phase) (handles : s'.handles = s.handles)
    (key : PartitionKey) (i : Nat) : s'.pendingOn? key i = s.pendingOn? key i := by
  rw [pendingOn?, pendingOn?, openWait?_congr phase handles]

end Session

namespace Remote
open Client

/-- A barrier is handed out for the key that was asked for, with the next number. -/
private theorem barrier?_of_outcome {issued : Nat} {call : Call} {a : Registry.Answer} {outcome : Except Fault Answer}
    {key : PartitionKey} (known : outcome? issued call a = some outcome) (own : ∀ k, call = .getBarrier k → k = key) :
    (Return.barrier? ⟨key, call, outcome⟩).toList = call.request.issues.map fun k => (k, issued + 1) := by
  unfold outcome? at known
  split at known
  · obtain rfl := own _ rfl
    obtain rfl := Option.some.inj known
    rfl
  -- no other call yields a barrier
  all_goals cases known <;> rfl

variable {config : ServerConfig} {count : Nat} {rs : List Return} {w : Wire} {s s' : Session} {down : Bytes}
  {c : Channel PartitionKey}

/-- A call returns, and the barrier that it yields, if any, can be used. -/
private theorem Joined.return (joined : Joined count rs w c s) {key : PartitionKey} {call : Call} {a : Registry.Answer}
    {outcome : Except Fault Answer} (proper : Proper s.keys key call)
    (known : outcome? s.keys.length call a = some outcome) (keys : s'.keys = s.keys ++ call.request.issues) :
    Joined (count + 1) (rs ++ [⟨key, call, outcome⟩]) w c s' := by
  have own : ∀ k, call = .getBarrier k → k = key := by
    rintro k rfl
    exact proper.1
  have handed := barrier?_of_outcome known own
  have barriers : (rs ++ [(⟨key, call, outcome⟩ : Return)]).filterMap Return.barrier? =
      rs.filterMap Return.barrier? ++ call.request.issues.map fun k => (k, s.keys.length + 1) := by
    rw [List.filterMap_append, ← handed, List.filterMap_cons]
    cases Return.barrier? (⟨key, call, outcome⟩ : Return) <;> rfl
  have one : call.request.issues = [] ∨ ∃ k, call.request.issues = [k] := by
    cases call with
    | getBarrier k => exact .inr ⟨k, rfl⟩
    | wait h timeout | status h | waiting h | isBroken h | abort h | reset h => exact .inl rfl
  refine ⟨joined.usable, joined.gone, joined.goes, ?_, fun key' h member => ?_, ?_, fun p member => ?_, joined.queued,
    joined.made⟩
  · rw [barriers, keys, List.length_append, List.length_append, joined.issued, List.length_map]
  · rw [barriers] at member
    rw [keys]
    rcases List.mem_append.mp member with earlier | new
    · exact keyOf?_append (joined.handed key' h earlier) _
    · rcases one with none | ⟨k, some⟩
      · rw [none] at new
        cases new
      · rw [some, List.map_singleton, List.mem_singleton, Prod.mk.injEq] at new
        obtain ⟨rfl, rfl⟩ := new
        rw [some]
        exact keyOf?_last s.keys key'
  · have few := joined.few
    rw [keys, List.length_append]
    rcases one with none | ⟨k, some⟩
    · rw [none, List.length_nil]
      omega
    · rw [some, List.length_singleton]
      omega
  · rw [keys]
    exact (joined.proper p member).append _

/-- What is known when the server turns to a connection: the registry and the waits are the same on both sides. -/
structure Situation (config : ServerConfig) (generation i : Nat) (service : Service) (now : Nat) (s : Session)
    (run : Registry.Run (PartitionKey × Nat)) : Prop where
  settings : service.config = config
  positive : 0 < config.parties
  parties : config.parties ≤ Json.maxNatural
  counted : generation ≤ Json.maxNatural
  ordinary : Ordinary config generation run.registry
  registry : run.registry = service.registry
  clock : run.now = now
  bound : s.Bound service.registry
  pending : ∀ key, run.find? (key, i) = s.pendingOn? key i
  ends : ∀ {key place wait b result}, s.openWait? = some (key, place, wait) → service.registry.barrier? place = some b →
    (b.poll now wait).2.1 = .done result → Barrier.Ends config.parties generation result

/-- What a turn of the server comes to on a connection: its session, the registry and what is written. -/
def stepOf (service : Service) (now : Nat) (s : Session) (t : Session.Turn) : Session × Registry × Option Response :=
  match s.turn service now t with
  | some m => (m.session, m.registry, m.sent)
  | none => (s, service.registry, none)

/-- What the use of a barrier comes to, if one is used. -/
def usedBy (before : List Return) (run : Registry.Run (PartitionKey × Nat)) :
    Option (PartitionKey × Call × Registry.Use Nat) → Registry.Run (PartitionKey × Nat) × List Return
  | some (key, call, u) => (run.use key u, returns before run key call u)
  | none => (run, [])

/-- Both sides have come to the same. -/
structure Agrees (config : ServerConfig) (count generation i : Nat) (rs : List Return) (w : Wire) (down : Bytes)
    (run : Registry.Run (PartitionKey × Nat)) (after : Session × Registry × Option Response)
    (used : Registry.Run (PartitionKey × Nat) × List Return) : Prop where
  stands : Stands config count (rs ++ used.2) w after.1 (down ++ (after.2.2.map Server.frameOf).getD [])
  registry : used.1.registry = after.2.1
  now : used.1.now = run.now
  own : ∀ key, used.1.find? (key, i) = after.1.pendingOn? key i
  others : ∀ key j, j ≠ i → used.1.find? (key, j) = run.find? (key, j)
  generation : ∀ key, (used.1.registry.barrierFor key).generation ≤ generation

section
variable {generation i now : Nat} {service : Service} {run : Registry.Run (PartitionKey × Nat)} {t : Session.Turn}
  {m : Session.Moved}

private theorem Situation.generation_le (situation : Situation config generation i service now s run)
    (key : PartitionKey) : (service.registry.barrierFor key).generation ≤ generation := by
  rw [← situation.registry]
  exact situation.ordinary.generation key

private theorem Situation.agrees (situation : Situation config generation i service now s run)
    (stands : Stands config count rs w s down) :
    Agrees config (count + 1) (generation + 1) i rs w down run (s, service.registry, none) (run, []) where
  stands := by
    simp only [List.append_nil, Option.map_none, Option.getD_none]
    exact stands.mono (Nat.le_succ count)
  registry := situation.registry
  now := rfl
  own := situation.pending
  others := fun _ _ _ => rfl
  generation := fun key => Nat.le_succ_of_le (situation.ordinary.generation key)

private theorem Situation.positive_registry (situation : Situation config generation i service now s run) :
    0 < service.registry.options.parties := by
  rw [← situation.registry, situation.ordinary.options]
  exact situation.positive

/-- The turn of a connection whose worker has no call concerns no barrier. -/
private theorem Situation.apart (situation : Situation config generation i service now s run) (left : Left s w.sent)
    (moved : s.turn service now t = some m)
    (stands : Stands config count rs w m.session (down ++ (m.sent.map Server.frameOf).getD [])) :
    Agrees config (count + 1) (generation + 1) i rs w down run (m.session, m.registry, m.sent) (run, []) := by
  obtain ⟨left', registry, _⟩ := left.turn situation.bound moved
  refine ⟨?_, ?_, rfl, fun key => ?_, fun _ _ _ => rfl, fun key => ?_⟩
  · rw [List.append_nil]
    exact stands.mono (Nat.le_succ count)
  · rw [registry]
    exact situation.registry
  · rw [situation.pending]
    simp [Session.pendingOn?, left.closed, left'.closed]
  · exact Nat.le_succ_of_le (situation.ordinary.generation key)

variable {p : Pending PartitionKey} {rest : List (Pending PartitionKey)}

/-- A wait is taken up: it is made on the barrier, and neither side says anything yet. -/
private theorem Situation.wait (situation : Situation config generation i service now s run) (peer : w.peer = .worker c)
    (joined : Joined count rs w c s) (calls : c.calls = p :: rest) (stage : p.stage = .receiving)
    (phase : s.phase = .serving) (clear : s.taken.Clear [] none) (sent : w.sent = []) (holds : c.inlet.Holds down none)
    (same : rs = w.returned) {h : Handle} {timeout : Option Duration} (call : p.call = .wait h timeout)
    (carried : Session.Carried service s.taken p.call.request m) :
    Agrees config (count + 1) (generation + 1) i rs w down run (m.session, m.registry, m.sent)
      (usedBy rs run (some (p.name, p.call, use i service.config.waitTimeout p.call))) := by
  have proper := joined.proper p (by rw [calls]; exact List.mem_cons_self ..)
  rw [call] at carried proper
  have known : keyOf? s.taken.keys h = some p.name := by
    rw [Session.keys_taken]
    exact proper
  obtain ⟨place, bound, silent, registry, session⟩ := carried.await known situation.positive_registry
  have bound' : s.binding? h = some (p.name, place) := by simpa [Session.binding?] using bound
  have located : run.registry.find? p.name = some place := by
    rw [situation.registry]
    exact situation.bound.find? bound'
  have absent : run.find? (p.name, i) = none := by
    rw [situation.pending]
    exact Session.pendingOn?_of_serving phase p.name i
  obtain ⟨registry', now', waits⟩ := Registry.Run.use_create located absent
    ((timeout.map Duration.milliseconds).orElse fun _ => service.config.waitTimeout)
  have used : usedBy rs run (some (p.name, p.call, use i service.config.waitTimeout p.call)) =
      (run.use p.name (.create i ((timeout.map Duration.milliseconds).orElse fun _ => service.config.waitTimeout)),
        []) := by
    rw [call]
    rfl
  have waiting : m.session.phase = .waiting h place
      { timeout := (timeout.map Duration.milliseconds).orElse fun _ => service.config.waitTimeout } := by rw [session]
  have bound'' : m.session.binding? h = some (p.name, place) := by
    rw [session]
    exact bound
  have own : ∀ key, m.session.pendingOn? key i = if p.name = key then
      some ⟨(key, i), place,
        { timeout := (timeout.map Duration.milliseconds).orElse fun _ => service.config.waitTimeout }⟩ else none :=
    fun key => Session.pendingOn?_of_waiting waiting bound'' key i
  rw [used]
  refine ⟨?_, registry'.trans ?_, now', fun key => ?_, fun key j other => ?_, fun key => ?_⟩
  · rw [List.append_nil, silent, Option.map_none, Option.getD_none, List.append_nil]
    refine .worker c peer ((joined.mono (Nat.le_succ count)).of_same ?_ rfl rfl) ?_
    · rw [session]
      exact s.keys_taken
    · refine .waiting p rest h timeout place _ calls stage call waiting ?_ holds same
      rw [sent, session]
      exact clear.at_phase _
  · rw [registry]
    exact situation.registry
  · rw [waits, own]
    by_cases here : p.name = key
    · subst here
      rw [if_pos rfl, if_pos rfl]
    · have elsewhere : (key, i) ≠ (p.name, i) := fun equal => here (congrArg Prod.fst equal).symm
      rw [if_neg elsewhere, if_neg here, situation.pending, Session.pendingOn?_of_serving phase]
  · have elsewhere : (key, j) ≠ (p.name, i) := fun equal => other (congrArg Prod.snd equal)
    rw [waits, if_neg elsewhere]
  · rw [registry']
    exact Nat.le_succ_of_le (situation.ordinary.generation key)

/-- No request opens more than one generation. -/
private theorem generation_effect (situation : Situation config generation i service now s run) (r : Request)
    (keys : List PartitionKey) (key : PartitionKey) :
    ((r.effect service.registry keys).barrierFor key).generation ≤ generation + 1 := by
  have before := situation.generation_le
  have acted : ∀ (k : PartitionKey) (f : Barrier → Barrier × Meter), (∀ b, (f b).1.generation ≤ b.generation + 1) →
      ((service.registry.act k f).barrierFor key).generation ≤ generation + 1 := by
    intro k f step
    unfold Registry.act
    cases located : service.registry.find? k with
    | none => exact Nat.le_succ_of_le (before key)
    | some place =>
      simp only
      rw [Registry.update_eq located, Registry.barrierFor_put located]
      by_cases here : key = k
      · rw [if_pos here]
        exact Nat.le_trans (step _) (Nat.succ_le_succ (before k))
      · rw [if_neg here]
        exact Nat.le_succ_of_le (before key)
  have command : ∀ (h : Handle) (f : Barrier → Barrier × Meter), (∀ b, (f b).1.generation ≤ b.generation + 1) →
      ((Request.effect.on service.registry keys h f).barrierFor key).generation ≤ generation + 1 := by
    intro h f step
    unfold Request.effect.on
    cases keyOf? keys h with
    | none => exact Nat.le_succ_of_le (before key)
    | some k => exact acted k f step
  cases r with
  | hello secret | wait h timeout | status h => exact Nat.le_succ_of_le (before key)
  | abort h => exact command h Barrier.abort fun b => Nat.le_succ_of_le (Nat.le_of_eq b.generation_abort)
  | reset h => exact command h Barrier.reset Barrier.generation_reset_le
  | getBarrier k =>
    show ((service.registry.getOrCreate k).1.barrierFor key).generation ≤ _
    rcases service.registry.getOrCreate_cases k with ⟨place, _, got⟩ | ⟨_, _, got⟩ | ⟨_, _, got⟩
    · rw [got]
      exact Nat.le_succ_of_le (before key)
    · rw [got, Registry.barrierFor_push]
      exact Nat.le_succ_of_le (before key)
    · rw [got]
      exact Nat.le_succ_of_le (before key)

/-- Any other call is taken up: the barrier answers, and the server writes what it answers. -/
private theorem Situation.answer (situation : Situation config generation i service now s run)
    (peer : w.peer = .worker c) (joined : Joined count rs w c s) (small : count < Json.maxNatural)
    (calls : c.calls = p :: rest) (stage : p.stage = .receiving) (phase : s.phase = .serving)
    (clear : s.taken.Clear [] none) (sent : w.sent = []) (holds : c.inlet.Holds down none) (same : rs = w.returned)
    (noWait : ∀ h timeout, p.call ≠ .wait h timeout) (carried : Session.Carried service s.taken p.call.request m) :
    Agrees config (count + 1) (generation + 1) i rs w down run (m.session, m.registry, m.sent)
      (usedBy rs run (some (p.name, p.call, use i service.config.waitTimeout p.call))) := by
  have proper := joined.proper p (by rw [calls]; exact List.mem_cons_self ..)
  have few : s.keys.length < Json.maxNatural := Nat.lt_of_le_of_lt joined.few small
  have located : ∀ {h key}, keyOf? s.keys h = some key → ∃ place, run.registry.find? key = some place := by
    intro h key known
    rw [Session.binding?_keyOf] at known
    obtain ⟨⟨key', place⟩, found, rfl⟩ := Option.map_eq_some_iff.mp known
    exact ⟨place, by rw [situation.registry]; exact situation.bound.find? found⟩
  obtain ⟨response, answered⟩ := answered_of_proper situation.ordinary situation.positive situation.parties
    situation.counted few located proper noWait i service.config.waitTimeout
  obtain ⟨told, session, keys, registry⟩ := carried.at_once clear situation.positive_registry
    (by rw [Session.keys_taken, ← situation.registry]; exact answered.answer) answered.readable.fits
  rw [Session.keys_taken] at keys registry
  have returned : returns rs run p.name p.call (use i service.config.waitTimeout p.call) =
      [⟨p.name, p.call, p.call.conclude response⟩] := by
    simp [returns, joined.issued, answered.outcome]
  have serving : m.session.phase = .serving := by
    rw [session]
    exact s.phase_taken.trans phase
  have quiet : ∀ key j,
      (run.use p.name (use i service.config.waitTimeout p.call)).find? (key, j) = run.find? (key, j) :=
    fun key j => answered.waits (key, j)
  have effect : (run.use p.name (use i service.config.waitTimeout p.call)).registry = m.registry := by
    rw [answered.effect, registry, situation.registry]
  have used : usedBy rs run (some (p.name, p.call, use i service.config.waitTimeout p.call)) =
      (run.use p.name (use i service.config.waitTimeout p.call), [⟨p.name, p.call, p.call.conclude response⟩]) := by
    rw [usedBy, returned]
  rw [used]
  refine ⟨?_, effect, answered.now, fun key => ?_, fun key j _ => quiet key j, fun key => ?_⟩
  · rw [told, Option.map_some, Option.getD_some]
    refine .worker c peer (joined.return proper answered.outcome keys) ?_
    refine .answered p rest response calls stage serving ?_ answered.readable (holds.write answered.readable.fits) ?_
    · rw [sent]
      refine clear.of_same ?_ ?_ ?_
      · rw [session]
      · rw [session]
      · rw [session]
    · rw [same]
  · rw [quiet, situation.pending, Session.pendingOn?_of_serving phase, Session.pendingOn?_of_serving serving]
  · rw [effect, registry]
    exact generation_effect situation p.call.request s.keys key

/-- A wait that is open waits for the barrier of its key, where it goes by the number of its connection. -/
theorem Situation.opened (situation : Situation config generation i service now s run) (joined : Joined count rs w c s)
    (calls : c.calls = p :: rest) {h : Handle} {timeout : Option Duration} {place : Registry.Place}
    {wait : Barrier.Wait} (call : p.call = .wait h timeout) (phase : s.phase = .waiting h place wait) :
    s.binding? h = some (p.name, place) ∧ service.registry.find? p.name = some place ∧
      run.find? (p.name, i) = some ⟨(p.name, i), place, wait⟩ ∧
      ∀ result, ((service.registry.barrierFor p.name).poll now wait).2.1 = .done result →
        Readable (Session.responseOf result) ∧ outcome? s.keys.length p.call (.polled (some result)) =
          some (p.call.conclude (Session.responseOf result)) := by
  have proper := joined.proper p (by rw [calls]; exact List.mem_cons_self ..)
  rw [call] at proper
  obtain ⟨key, bound⟩ := situation.bound.waits phase
  obtain rfl : key = p.name := by
    have known := Session.keyOf?_of_binding bound
    rw [proper, Option.some.injEq] at known
    exact known.symm
  have located := situation.bound.find? bound
  refine ⟨bound, located, ?_, fun result done => ?_⟩
  · rw [situation.pending, Session.pendingOn?_of_waiting phase bound, if_pos rfl]
  · have opened : s.openWait? = some (p.name, place, wait) := Session.openWait?_of_waiting phase bound
    have ends := situation.ends opened (Registry.barrier?_of_find? located) done
    rw [call]
    exact response_of_ends ends situation.parties situation.counted _ h timeout

/-- What polling an open wait comes to by itself. -/
structure Polled (generation i : Nat) (service : Service) (now : Nat) (run : Registry.Run (PartitionKey × Nat))
    (key : PartitionKey) (place : Registry.Place) (polled : Barrier × Barrier.Poll) : Prop where
  registry : (run.use key (.poll i)).registry = service.registry.put place polled.1
  now : (run.use key (.poll i)).now = run.now
  answer : run.answer key (.poll i) = .polled (Registry.finished? polled.2)
  own : ∀ k, (run.use key (.poll i)).find? (k, i) = match polled.2 with
    | .pending w => if key = k then some ⟨(k, i), place, w⟩ else none
    | .done _ => none
  others : ∀ k j, j ≠ i → (run.use key (.poll i)).find? (k, j) = run.find? (k, j)
  generation : ∀ k, ((run.use key (.poll i)).registry.barrierFor k).generation ≤ generation + 1

private theorem Situation.polled (situation : Situation config generation i service now s run) {key : PartitionKey}
    {h : Handle} {place : Registry.Place} {wait : Barrier.Wait} (phase : s.phase = .waiting h place wait)
    (bound : s.binding? h = some (key, place)) (located : service.registry.find? key = some place) :
    Polled generation i service now run key place
      (((service.registry.barrierFor key).poll now wait).1, ((service.registry.barrierFor key).poll now wait).2.1) := by
  have there := Registry.barrier?_of_find? located
  have pending : ∀ k, run.find? (k, i) = if key = k then some ⟨(k, i), place, wait⟩ else none := by
    intro k
    rw [situation.pending]
    exact Session.pendingOn?_of_waiting phase bound k i
  have found : run.find? (key, i) = some ⟨(key, i), place, wait⟩ := by rw [pending, if_pos rfl]
  obtain ⟨registry, now', answer, waits⟩ := Registry.Run.use_poll found (by rw [situation.registry]; exact there)
  rw [situation.clock] at registry answer waits
  rw [situation.registry] at registry
  refine ⟨registry, now', answer, fun k => ?_, fun k j other => ?_, fun k => ?_⟩
  · rw [waits]
    by_cases here : key = k
    · subst here
      rw [if_pos rfl]
      cases ((service.registry.barrierFor key).poll now wait).2.1 with
      | pending w' => exact (if_pos rfl).symm
      | done result => rfl
    · have apart : (k, i) ≠ (key, i) := fun equal => here (congrArg Prod.fst equal).symm
      rw [if_neg apart, pending, if_neg here]
      cases ((service.registry.barrierFor key).poll now wait).2.1 with
      | pending w' => exact (if_neg here).symm
      | done result => rfl
  · have elsewhere : (k, j) ≠ (key, i) := fun equal => other (congrArg Prod.snd equal)
    rw [waits, if_neg elsewhere]
  · rw [registry, Registry.barrierFor_put located]
    by_cases here : k = key
    · rw [if_pos here]
      exact Nat.le_trans (Barrier.generation_poll_le _ now wait) (Nat.succ_le_succ (situation.generation_le key))
    · rw [if_neg here]
      exact Nat.le_succ_of_le (situation.generation_le k)

/-- The server looks after a wait: the wait is polled, and if it ends the server writes what it ended in. -/
private theorem Situation.poll (situation : Situation config generation i service now s run) (peer : w.peer = .worker c)
    (joined : Joined count rs w c s) (calls : c.calls = p :: rest) (stage : p.stage = .receiving) {h : Handle}
    {timeout : Option Duration} {place : Registry.Place} {wait : Barrier.Wait} (call : p.call = .wait h timeout)
    (phase : s.phase = .waiting h place wait) (clear : s.Clear w.sent none) (holds : c.inlet.Holds down none)
    (same : rs = w.returned) :
    Agrees config (count + 1) (generation + 1) i rs w down run (stepOf service now s .look)
      (usedBy rs run (some (p.name, p.call, .poll i))) := by
  obtain ⟨bound, located, _, ends⟩ := situation.opened joined calls call phase
  have proper := joined.proper p (by rw [calls]; exact List.mem_cons_self ..)
  have there := Registry.barrier?_of_find? located
  obtain ⟨registry, now', answer, own, others, generations⟩ := situation.polled phase bound located
  have used : usedBy rs run (some (p.name, p.call, .poll i)) = (run.use p.name (.poll i),
      ((outcome? s.keys.length p.call
          (.polled (Registry.finished? ((service.registry.barrierFor p.name).poll now wait).2.1))).map fun outcome =>
        (⟨p.name, p.call, outcome⟩ : Return)).toList) := by
    rw [usedBy, returns, joined.issued, answer]
  rw [used]
  rcases (clear.look phase there situation.bound fun result done => (ends result done).1.fits).2 with
    ⟨still, polled⟩ | ⟨m, moved, registry', ⟨w', polled, silent, session⟩ | ⟨result, polled, told, session⟩⟩
  · -- the wait is as it was before, and so is the barrier
    have nothing : outcome? s.keys.length p.call (.polled none) = none := by rw [call]; rfl
    simp only [stepOf, still, polled, Registry.finished?, nothing] at own ⊢
    refine ⟨?_, ?_, now', fun key => ?_, others, generations⟩
    · rw [Option.map_none, Option.toList_none, List.append_nil, Option.map_none, Option.getD_none, List.append_nil]
      refine .worker c peer (joined.mono (Nat.le_succ count)) ?_
      exact .waiting p rest h timeout place wait calls stage call phase clear holds same
    · rw [registry, Barrier.poll_unchanged polled]
      exact Registry.put_self there
    · rw [own]
      exact (Session.pendingOn?_of_waiting phase bound key i).symm
  · have nothing : outcome? s.keys.length p.call (.polled none) = none := by rw [call]; rfl
    simp only [stepOf, moved, polled, Registry.finished?, nothing] at own ⊢
    have phase' : m.session.phase = .waiting h place w' := by rw [session]
    have bound' : m.session.binding? h = some (p.name, place) := by
      rw [session]
      exact bound
    refine ⟨?_, registry.trans registry'.symm, now', fun key => ?_, others, generations⟩
    · rw [Option.map_none, Option.toList_none, List.append_nil, silent, Option.map_none, Option.getD_none,
        List.append_nil, session]
      refine .worker c peer ((joined.mono (Nat.le_succ count)).of_same rfl rfl rfl) ?_
      exact .waiting p rest h timeout place w' calls stage call rfl (clear.at_phase _) holds same
    · rw [own]
      exact (Session.pendingOn?_of_waiting phase' bound' key i).symm
  · obtain ⟨readable, outcome⟩ := ends result polled
    simp only [stepOf, moved, polled, Registry.finished?, outcome] at own ⊢
    have serving : m.session.phase = .serving := by rw [session]
    refine ⟨?_, registry.trans registry'.symm, now', fun key => ?_, others, generations⟩
    · rw [Option.map_some, Option.toList_some, told, Option.map_some, Option.getD_some, session]
      refine .worker c peer (joined.return proper outcome ?_) ?_
      · rw [call]
        exact (List.append_nil _).symm
      · refine .answered p rest (Session.responseOf result) calls stage rfl (clear.at_phase _) readable
          (holds.write readable.fits) ?_
        rw [same]
    · rw [own]
      exact (Session.pendingOn?_of_serving serving key i).symm

/-- A turn of the server on a connection comes to the same as the use of the barrier that it turns to. -/
theorem Stands.serve (stands : Stands config count rs w s down)
    (situation : Situation config generation i service now s run) (small : count < Json.maxNatural) (t : Session.Turn) :
    Agrees config (count + 1) (generation + 1) i rs w down run (stepOf service now s t)
      (usedBy rs run (w.taken? service.config.waitTimeout i s t)) := by
  cases stands with
  | joining h peer made returned none handles joining =>
    have nobody : w.taken? service.config.waitTimeout i s t = .none := by
      simp [Wire.taken?, Wire.current?, Peer.channel?, peer]
    have stands : Stands config count rs w s down := .joining h peer made returned none handles joining
    rw [nobody]
    unfold stepOf
    cases moved : s.turn service now t with
    | none => exact situation.agrees stands
    | some m =>
      obtain ⟨_, _, handles'⟩ := joining.left.turn situation.bound moved
      refine situation.apart joining.left moved (.joining h peer made returned none (handles'.trans handles) ?_)
      exact joining.turn situation.settings situation.parties situation.bound moved
  | nobody peer same made left =>
    have nobody : w.taken? service.config.waitTimeout i s t = .none := by
      simp [Wire.taken?, Wire.current?, Peer.channel?, peer]
    have stands : Stands config count rs w s down := .nobody peer same made left
    rw [nobody]
    unfold stepOf
    cases moved : s.turn service now t with
    | none => exact situation.agrees stands
    | some m => exact situation.apart left moved (.nobody peer same made (left.turn situation.bound moved).1)
  | worker c peer joined progress =>
    have stands : Stands config count rs w s down := .worker c peer joined progress
    -- nothing is taken up, and nothing is looked after
    have nothing : s.phase = .serving → s.turn service now t = none ∧ s.request? = none →
        Agrees config (count + 1) (generation + 1) i rs w down run (stepOf service now s t)
          (usedBy rs run (w.taken? service.config.waitTimeout i s t)) := by
      rintro serving ⟨still, unasked⟩
      have nobody : w.taken? service.config.waitTimeout i s t = .none := by
        cases t with
        | input => simp [Wire.taken?, unasked]
        | look => simp [Wire.taken?, serving]
      rw [nobody, stepOf, still]
      exact situation.agrees stands
    cases progress with
    | free idle phase clear holds same => exact nothing phase (clear.quiet phase)
    | answered p rest response calls stage phase clear readable holds same => exact nothing phase (clear.quiet phase)
    | waiting p rest h timeout place wait calls stage call phase clear holds same =>
      cases t with
      | look =>
        have polls : w.taken? service.config.waitTimeout i s .look = some (p.name, p.call, .poll i) := by
          simp [Wire.taken?, Wire.current?, Peer.channel?, peer, calls, phase]
        rw [polls]
        exact situation.poll peer joined calls stage call phase clear holds same
      | input =>
        have unasked : w.taken? service.config.waitTimeout i s .input = none := by
          simp [Wire.taken?, Session.request?, phase]
        rw [unasked, stepOf, (clear.input_none (.inl rfl) service now).2]
        exact situation.agrees stands
    | asked p rest calls stage phase clear holds same =>
      have proper := joined.proper p (by rw [calls]; exact List.mem_cons_self ..)
      have few := joined.few
      have read := Request.decode?_encode (proper.small (by omega))
      cases t with
      | look =>
        have unasked : w.taken? service.config.waitTimeout i s .look = none := by simp [Wire.taken?, phase]
        rw [unasked, stepOf, Session.look_of_serving phase]
        exact situation.agrees stands
      | input =>
        rcases clear.request phase read situation.bound with ⟨still, unasked⟩ | ⟨asked, after, m, moved, carried⟩
        · exact nothing phase ⟨still, unasked⟩
        · have takes : w.taken? service.config.waitTimeout i s .input =
              some (p.name, p.call, use i service.config.waitTimeout p.call) := by
            simp [Wire.taken?, Wire.current?, Peer.channel?, peer, calls, asked]
          have arrived : w.sent = [] := by
            by_contra coming
            have still := (clear.input_none (.inr coming) service now).2
            rw [still] at moved
            cases moved
          rw [takes, stepOf, moved]
          cases call : p.call with
          | wait h timeout =>
            rw [← call]
            exact situation.wait peer joined calls stage phase after arrived holds same call carried
          | getBarrier k =>
            rw [← call]
            exact situation.answer peer joined small calls stage phase after arrived holds same
              (by simp [call]) carried
          | status h | waiting h | isBroken h | abort h | reset h =>
            rw [← call]
            exact situation.answer peer joined small calls stage phase after arrived holds same
              (by simp [call]) carried

end

end Remote
end Lockstep
