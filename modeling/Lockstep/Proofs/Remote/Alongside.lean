import Lockstep.Proofs.Remote.Serving

namespace Lockstep

private theorem Base64.length_encodeList (b : Bytes) : (encodeList b).length = 4 * ((b.length + 2) / 3) := by
  induction b using encodeList.induct with
  | case1 => rfl
  | case2 a => simp [encodeList]
  | case3 a b => simp [encodeList]
  | case4 a b c rest ih =>
    simp only [encodeList, List.length_cons, ih]
    omega

namespace Remote
open Client

/-- A secret is short enough for a frame. -/
private theorem hello_fits (target : Target) : target.hello.encode.length ≤ Frame.maxBody := by
  refine Request.encode_fits trivial (fun key same => Request.noConfusion same) fun secret same => ?_
  obtain rfl : target.secret.toBase64 = secret := Request.hello.inj same
  have length : target.secret.toBase64.length = 44 := by
    rw [Secret.toBase64, Base64.encode, String.length_ofList, Base64.length_encodeList, target.secret.length_key]
  omega

section
variable {config : ServerConfig} {count : Nat} {rs : List Return} {w : Wire} {s : Session} {down : Bytes}
  {c : Channel PartitionKey}

/-- The worker was told what the barriers returned, except that the last of it may be under way. -/
theorem Stands.told (stands : Stands config count rs w s down) :
    ∃ underWay, rs = w.returned ++ underWay ∧ underWay.length ≤ 1 := by
  have all : rs = w.returned → ∃ underWay, rs = w.returned ++ underWay ∧ underWay.length ≤ 1 :=
    fun same => ⟨[], by rw [List.append_nil]; exact same, Nat.zero_le 1⟩
  cases stands with
  | joining h peer made returned none => exact all (none.trans returned.symm)
  | nobody peer same => exact all same
  | worker c peer joined progress =>
    cases progress with
    | free idle phase clear holds same => exact all same
    | asked p rest calls stage phase clear holds same => exact all same
    | waiting p rest h timeout place wait calls stage call phase clear holds same => exact all same
    | answered p rest response calls stage phase clear readable holds same => exact ⟨[_], same, Nat.le_refl 1⟩

/-- The calls that the barriers returned from are the first ones that the worker made. -/
theorem Stands.inOrder (stands : Stands config count rs w s down) : callsOf rs <+: w.made := by
  cases stands with
  | joining h peer made returned none =>
    rw [none]
    exact List.nil_prefix
  | nobody peer same made =>
    refine ⟨[], ?_⟩
    rw [same, made, List.append_nil]
  | worker c peer joined progress =>
    have returned : rs = w.returned → callsOf rs <+: w.made := by
      intro same
      rw [same, joined.made]
      exact List.prefix_append ..
    cases progress with
    | free idle phase clear holds same => exact returned same
    | asked p rest calls stage phase clear holds same => exact returned same
    | waiting p rest h timeout place wait calls stage call phase clear holds same => exact returned same
    | answered p rest response calls stage phase clear readable holds same =>
      refine ⟨rest.map fun p => (p.name, p.call), ?_⟩
      rw [joined.made, same, calls]
      simp [callsOf]

/-- A barrier that a worker got can be called. -/
private theorem Stands.handed (stands : Stands config count rs w s down) (peer : w.peer = .worker c)
    {key : PartitionKey} {h : Handle} (got : (key, h) ∈ w.barriers) : keyOf? s.keys h = some key := by
  obtain ⟨underWay, same, _⟩ := stands.told
  refine (stands.of_worker peer).1.handed key h ?_
  rw [same, List.filterMap_append]
  exact List.mem_append_left _ got

end

/-- Server and workers have come to the same as the barriers by themselves. -/
structure Alongside (config : ServerConfig) (count : Nat) (n : Network) (l : Local) : Prop where
  reached : ∃ secret address complaint ops, n.server = (Server.start config secret address complaint).run ops
  size : n.wires.size = n.server.lines.size
  registry : l.run.registry = n.server.service.registry
  clock : l.run.now = n.server.now
  waits : ∀ key i, l.run.find? (key, i) = n.server.lines[i]?.bind fun line => line.session.pendingOn? key i
  generation : ∀ key, (l.run.registry.barrierFor key).generation ≤ count
  stands : ∀ {i w line}, n.wires[i]? = some w → n.server.lines[i]? = some line → w.heard ≤ line.outgoing.length ∧
    Stands config count (l.returnedTo i) w line.session (line.outgoing.drop w.heard)
  new : ∀ i, n.wires[i]? = none → l.returnedTo i = []

section
variable {config : ServerConfig} {count i : Nat} {n : Network} {l : Local} {w w' : Wire} {line : Line}

private theorem Alongside.mono (alongside : Alongside config count n l) {count' : Nat} (more : count ≤ count') :
    Alongside config count' n l :=
  { alongside with
    generation := fun key => Nat.le_trans (alongside.generation key) more
    stands := fun wire found => ⟨(alongside.stands wire found).1, (alongside.stands wire found).2.mono more⟩ }

theorem Alongside.start (config : ServerConfig) (secret : Secret) (address : Address) (complaint : Bytes → String) :
    Alongside config 0 (.start config secret address complaint) (.start config) where
  reached := ⟨secret, address, complaint, [], rfl⟩
  size := rfl
  registry := rfl
  clock := rfl
  waits := fun key i => by simp [Network.start, Server.start, Local.start, Registry.Run.start, Registry.Run.find?]
  generation := fun key => by simp [Local.start, Registry.Run.start, Registry.barrierFor, Registry.find?]
  stands := fun wire => by simp [Network.start] at wire
  new := fun _ _ => rfl

private theorem Alongside.line_of_wire (alongside : Alongside config count n l) (wire : n.wires[i]? = some w) :
    ∃ line, n.server.lines[i]? = some line := by
  have inside : i < n.wires.size := (Array.getElem?_eq_some_iff.mp wire).1
  rw [alongside.size] at inside
  exact ⟨_, Array.getElem?_eq_getElem inside⟩

theorem Alongside.wire_of_line (alongside : Alongside config count n l) (found : n.server.lines[i]? = some line) :
    ∃ w, n.wires[i]? = some w := by
  have inside : i < n.server.lines.size := (Array.getElem?_eq_some_iff.mp found).1
  rw [← alongside.size] at inside
  exact ⟨_, Array.getElem?_eq_getElem inside⟩

/-- All that the server needs to know when it turns to a connection. -/
theorem Alongside.situation (alongside : Alongside config count n l) (positive : 0 < config.parties)
    (parties : config.parties ≤ Json.maxNatural) (counted : count ≤ Json.maxNatural)
    (found : n.server.lines[i]? = some line) :
    Situation config count i n.server.service n.server.now line.session l.run := by
  obtain ⟨secret, address, complaint, ops, reached⟩ := alongside.reached
  have service := Server.run_service (Server.start config secret address complaint) ops
  have turned := Server.start_turned config secret address complaint ops
  have stories := Server.story_of_run config secret address complaint positive ops
  rw [← reached] at service turned stories
  refine ⟨?_, positive, parties, counted, ⟨?_, fun key => ?_, fun key => ?_, alongside.generation⟩, alongside.registry,
    alongside.clock, turned.linked found, fun key => ?_, ?_⟩
  · rw [service]
    rfl
  · rw [alongside.registry]
    exact turned.more.options
  · rw [alongside.registry]
    exact (stories key).2.1
  · have below := (stories key).1.below_parties
    rw [(stories key).2.1] at below
    rw [alongside.registry]
    exact below
  · rw [alongside.waits, found]
    rfl
  · -- a wait that is open has arrived at its barrier as that barrier knows
    intro key place wait b result opened there polled
    obtain ⟨h, waiting, bound, located⟩ := (turned.linked found).waiting_of_openWait? opened
    have own := Registry.barrier?_of_find? located
    rw [there, Option.some.injEq] at own
    obtain ⟨sound, options, story⟩ := stories key
    have known : n.server.blockedOn key i = wait.arrival := by
      rw [Server.blockedOn_of_line found, Session.arrivalOn?_of_waiting waiting bound, if_pos rfl]
    rw [own] at polled
    have ends := Barrier.poll_ends sound story known polled
    have limit := alongside.generation key
    rw [options] at ends
    rw [alongside.registry] at limit
    exact ends.mono limit

private theorem getElem?_setWire (wire : n.wires[i]? = some w) (w' : Wire) (j : Nat) :
    (n.setWire i w').wires[j]? = if j = i then some w' else n.wires[j]? := by
  have inside : i < n.wires.size := (Array.getElem?_eq_some_iff.mp wire).1
  rw [Network.setWire, Array.getElem?_setIfInBounds]
  by_cases same : i = j
  · subst same
    simp [inside]
  · rw [if_neg same, if_neg (Ne.symm same)]

private theorem setWire_absent (n : Network) (i : Nat) (w' : Wire) (j : Nat) :
    (n.setWire i w').wires[j]? = none ↔ n.wires[j]? = none := by
  simp [Network.setWire]

private theorem Alongside.performed (alongside : Alongside config count n l) (op : Server.Operation) :
    ∃ secret address complaint ops, n.server.perform op = (Server.start config secret address complaint).run ops := by
  obtain ⟨secret, address, complaint, ops, reached⟩ := alongside.reached
  refine ⟨secret, address, complaint, ops ++ [op], ?_⟩
  rw [Server.run_append, ← reached]
  rfl

/-- A worker goes on by itself. -/
private theorem Alongside.setWire (alongside : Alongside config count n l) (wire : n.wires[i]? = some w)
    (stands : ∀ line, n.server.lines[i]? = some line → w'.heard ≤ line.outgoing.length ∧
      Stands config count (l.returnedTo i) w' line.session (line.outgoing.drop w'.heard)) :
    Alongside config count (n.setWire i w') l :=
  { alongside with
    size := by
      rw [Network.setWire, Array.size_setIfInBounds]
      exact alongside.size
    stands := fun {j other line} there found => by
      rw [getElem?_setWire wire] at there
      by_cases same : j = i
      · subst same
        rw [if_pos rfl, Option.some.injEq] at there
        rw [← there]
        exact stands line found
      · rw [if_neg same] at there
        exact alongside.stands there found
    new := fun j absent => alongside.new j ((setWire_absent n i w' j).mp absent) }

/-- Something comes to the server from a worker, who goes on meanwhile. -/
private theorem Alongside.modify (alongside : Alongside config count n l) (wire : n.wires[i]? = some w)
    {op : Server.Operation} {f : Session → Session} (performed : n.server.perform op = n.server.modifySession i f)
    (phase : ∀ s, (f s).phase = s.phase) (handles : ∀ s, (f s).handles = s.handles)
    (stands : ∀ line, n.server.lines[i]? = some line → w'.heard ≤ line.outgoing.length ∧
      Stands config count (l.returnedTo i) w' (f line.session) (line.outgoing.drop w'.heard)) :
    Alongside config count { n.setWire i w' with server := n.server.perform op } l where
  reached := alongside.performed op
  size := by
    rw [performed, Network.setWire, Array.size_setIfInBounds, Server.modifySession, Array.size_modify]
    exact alongside.size
  registry := by
    rw [performed]
    exact alongside.registry
  clock := by
    rw [performed]
    exact alongside.clock
  waits := fun key j => by
    rw [performed, Server.getElem?_modifySession, alongside.waits]
    by_cases same : j = i
    · subst same
      rw [if_pos rfl]
      cases n.server.lines[j]? with
      | none => rfl
      | some line => exact Session.pendingOn?_congr (phase line.session).symm (handles line.session).symm key j
    · rw [if_neg same]
  generation := alongside.generation
  stands := fun {j other line} there found => by
    rw [getElem?_setWire wire] at there
    rw [performed, Server.getElem?_modifySession] at found
    by_cases same : j = i
    · subst same
      rw [if_pos rfl, Option.some.injEq] at there
      rw [if_pos rfl] at found
      obtain ⟨before, here, rfl⟩ := Option.map_eq_some_iff.mp found
      rw [← there]
      exact stands before here
    · rw [if_neg same] at there found
      exact alongside.stands there found
  new := fun j absent => alongside.new j ((setWire_absent n i w' j).mp absent)

/-- A worker connects, and its secret is under way. -/
private theorem Alongside.join (alongside : Alongside config count n l) (target : Target) :
    Alongside config count (n.join target) l := by
  unfold Network.join
  cases accepted : n.server.accept with
  | none => exact alongside
  | some found =>
    obtain ⟨place, server⟩ := found
    have reached := alongside.performed .accept
    rw [Server.perform, accepted, Option.map_some, Option.getD_some] at reached
    have here : n.server.running = true ∧ server = { n.server with
        lines := n.server.lines.push { session := .new }
        meter := n.server.meter + { accepted := 1 } } := by
      unfold Server.accept at accepted
      by_cases running : n.server.running = true
      · rw [if_pos running, Option.some.injEq, Prod.mk.injEq] at accepted
        exact ⟨running, accepted.2.symm⟩
      · rw [if_neg running] at accepted
        cases accepted
    obtain ⟨_, rfl⟩ := here
    refine ⟨reached, ?_, alongside.registry, alongside.clock, fun key j => ?_, alongside.generation, ?_,
      fun j absent => ?_⟩
    · simp [alongside.size]
    · rw [Array.getElem?_push]
      by_cases last : j = n.server.lines.size
      · rw [if_pos last, alongside.waits, Array.getElem?_eq_none (Nat.le_of_eq last.symm)]
        simp [Session.pendingOn?, Session.openWait?, Session.new]
      · rw [if_neg last]
        exact alongside.waits key j
    · intro j other line wire found
      rw [Array.getElem?_push] at wire found
      rw [alongside.size] at wire
      by_cases last : j = n.server.lines.size
      · rw [if_pos last, Option.some.injEq] at wire found
        subst wire found
        have nothing : l.returnedTo j = [] := by
          refine alongside.new j (Array.getElem?_eq_none ?_)
          rw [alongside.size]
          exact Nat.le_of_eq last.symm
        have clear : Session.new.Clear [] none :=
          ⟨rfl, ⟨rfl, rfl⟩, .fresh, rfl⟩
        refine ⟨Nat.le_refl 0, .joining _ rfl rfl rfl nothing rfl ?_⟩
        exact .asking _ target.hello.encode rfl (clear.write (hello_fits target)) ⟨rfl, rfl⟩ .fresh
      · rw [if_neg last] at wire found
        exact alongside.stands wire found
    · rw [Array.getElem?_push] at absent
      by_cases last : j = n.wires.size
      · rw [if_pos last] at absent
        cases absent
      · rw [if_neg last] at absent
        exact alongside.new j absent

/-- A worker calls. -/
private theorem Alongside.call (alongside : Alongside config count n l) {key : PartitionKey} {call : Call}
    (proper : ∀ {w c line}, n.wires[i]? = some w → w.peer = .worker c → n.server.lines[i]? = some line →
      Proper line.session.keys key call) : Alongside config count (n.call i key call) l := by
  unfold Network.call
  cases wire : n.wires[i]? with
  | none => exact alongside
  | some w =>
    cases peer : w.peer with
    | joining h => simpa only [peer] using alongside
    | nobody => simpa only [peer] using alongside
    | worker c =>
      simp only [peer]
      refine alongside.setWire wire fun line found => ?_
      obtain ⟨heard, stands⟩ := alongside.stands wire found
      exact ⟨heard, stands.call peer (proper wire peer found)⟩

private theorem proper_ask {keys : List PartitionKey} {key : PartitionKey} {h : Handle}
    (known : keyOf? keys h = some key) (ask : Cluster.Ask) : Proper keys key (ask.call h) := by
  cases ask with
  | waitFor _ | status | waiting | isBroken | abort | reset => exact known

private theorem Alongside.ask (alongside : Alongside config count n l) (barrier : Nat) (ask : Cluster.Ask) :
    Alongside config count (n.ask i barrier ask) l := by
  unfold Network.ask
  cases wire : n.wires[i]? with
  | none => exact alongside
  | some w =>
    cases got : w.barriers[barrier]? with
    | none => simpa only [got] using alongside
    | some entry =>
      obtain ⟨key, h⟩ := entry
      simp only [got]
      refine alongside.call fun {w' c line} wire' peer found => ?_
      rw [wire, Option.some.injEq] at wire'
      subst wire'
      exact proper_ask ((alongside.stands wire found).2.handed peer (List.mem_of_getElem? got)) ask

/-- A connection without a call is closed by its worker. -/
private theorem Alongside.hangUp (alongside : Alongside config count n l) (wire : n.wires[i]? = some w)
    (idle : (∃ h, w.peer = .joining h) ∨ ∃ c, w.peer = .worker c ∧ c.calls = []) :
    Alongside config count (n.hangUp i w) l := by
  refine alongside.modify wire (f := fun s => { s with inlet := s.inlet.close, gone := true }) rfl (fun _ => rfl)
    (fun _ => rfl) fun line found => ?_
  obtain ⟨heard, stands⟩ := alongside.stands wire found
  exact ⟨heard, stands.hangUp idle⟩

private theorem Alongside.leave (alongside : Alongside config count n l) (i : Nat) :
    Alongside config count (n.leave i) l := by
  unfold Network.leave
  cases wire : n.wires[i]? with
  | none => exact alongside
  | some w =>
    cases peer : w.peer with
    | joining h => simpa only [peer] using alongside
    | nobody => simpa only [peer] using alongside
    | worker c =>
      simp only [peer]
      by_cases idle : c.calls.isEmpty = true
      · rw [if_pos idle]
        exact alongside.hangUp wire (.inr ⟨c, peer, List.isEmpty_iff.mp idle⟩)
      · rw [if_neg idle]
        exact alongside

/-- A worker takes a turn. -/
private theorem Alongside.work (alongside : Alongside config count n l) (parties : config.parties ≤ Json.maxNatural)
    (counted : count ≤ Json.maxNatural) (i : Nat) : Alongside config count (n.work i) l := by
  unfold Network.work
  cases wire : n.wires[i]? with
  | none => exact alongside
  | some w =>
    cases peer : w.peer with
    | nobody => simpa only [peer] using alongside
    | joining handshake =>
      cases turned : (handshake.turn n.server.now : Option (Except Fault (Channel PartitionKey))) with
      | none => simpa only [peer, turned] using alongside
      | some result =>
        cases result with
        | error f =>
          simp only [peer, turned]
          exact alongside.hangUp wire (.inl ⟨handshake, peer⟩)
        | ok channel =>
          simp only [peer, turned]
          refine alongside.setWire wire fun line found => ?_
          obtain ⟨heard, stands⟩ := alongside.stands wire found
          exact ⟨heard, stands.join peer parties turned⟩
    | worker c =>
      cases moved : c.turn with
      | none => simpa only [peer, moved] using alongside
      | some m =>
        obtain ⟨line, found⟩ := alongside.line_of_wire wire
        have usable := ((alongside.stands wire found).2.turn peer counted moved).1
        have same : n.moved i w m = n.setWire i (w.after m) := by
          simp only [Network.moved, usable, if_true]
          rfl
        simp only [peer, moved]
        rw [same]
        refine alongside.setWire wire fun line found => ?_
        obtain ⟨heard, stands⟩ := alongside.stands wire found
        exact ⟨heard, (stands.turn peer counted moved).2⟩

private theorem Alongside.send (alongside : Alongside config count n l) (i k : Nat) :
    Alongside config count (n.send i k) l := by
  unfold Network.send
  cases wire : n.wires[i]? with
  | none => exact alongside
  | some w =>
    refine alongside.modify wire (f := fun s => { s with inlet := s.inlet.push (w.sent.take k) }) rfl (fun _ => rfl)
      (fun _ => rfl) fun line found => ?_
    obtain ⟨heard, stands⟩ := alongside.stands wire found
    exact ⟨heard, stands.send k⟩

private theorem Alongside.hear (alongside : Alongside config count n l) (i k : Nat) :
    Alongside config count (n.hear i k) l := by
  unfold Network.hear
  cases wire : n.wires[i]? with
  | none => exact alongside
  | some w =>
    obtain ⟨line, found⟩ := alongside.line_of_wire wire
    simp only [found]
    refine alongside.setWire wire fun line' found' => ?_
    rw [found, Option.some.injEq] at found'
    subst found'
    obtain ⟨heard, stands⟩ := alongside.stands wire found
    constructor
    · simp only [List.length_take, List.length_drop]
      omega
    · have rest : (line.outgoing.drop w.heard).drop ((line.outgoing.drop w.heard).take k).length =
          (line.outgoing.drop w.heard).drop k := by
        generalize line.outgoing.drop w.heard = down
        rcases Nat.le_total k down.length with inside | outside
        · rw [List.length_take, Nat.min_eq_left inside]
        · rw [List.take_of_length_le outside, List.drop_length, List.drop_eq_nil_of_le outside]
      rw [← List.drop_drop, rest]
      refine stands.hear k _ fun closed => ?_
      exact (Bool.and_eq_true_iff.mp closed).1

private theorem Alongside.advance (alongside : Alongside config count n l) (ms : Nat) :
    Alongside config count { n with server := n.server.perform (.advance ms) }
      { l with run := l.run.performAt (.advance ms) } :=
  { alongside with
    reached := alongside.performed (.advance ms)
    clock := by
      show l.run.now + ms = n.server.now + ms
      rw [alongside.clock] }

private theorem returnedTo_use (l : Local) (i : Nat) (key : PartitionKey) (call : Call) (u : Registry.Use Nat)
    (j : Nat) : (l.use i key call u).returnedTo j =
      if j = i then l.returnedTo i ++ returns (l.returnedTo i) l.run key call u else l.returnedTo j := by
  simp only [Local.use, Local.returnedTo, List.filterMap_append, List.filterMap_map]
  by_cases same : j = i
  · subst same
    simp
  · simp [same, Ne.symm same]

/-- What the use of a barrier comes to, if one is used. -/
private theorem follow_serve (wire : n.wires[i]? = some w) (found : n.server.lines[i]? = some line) (l : Local)
    (t : Session.Turn) :
    let used := usedBy (l.returnedTo i) l.run (w.taken? n.server.service.config.waitTimeout i line.session t)
    (n.follow l (.serve i t)).run = used.1 ∧
      ∀ j, (n.follow l (.serve i t)).returnedTo j = if j = i then l.returnedTo i ++ used.2 else l.returnedTo j := by
  have same : n.taken? i t = w.taken? n.server.service.config.waitTimeout i line.session t := by
    simp [Network.taken?, wire, found]
  simp only [Network.follow, same]
  cases w.taken? n.server.service.config.waitTimeout i line.session t with
  | none =>
    refine ⟨rfl, fun j => ?_⟩
    by_cases here : j = i
    · rw [if_pos here, here]
      exact (List.append_nil _).symm
    · rw [if_neg here]
  | some taken =>
    obtain ⟨key, call, u⟩ := taken
    exact ⟨rfl, returnedTo_use l i key call u⟩

/-- What a turn on a connection comes to. -/
private theorem perform_turn (found : n.server.lines[i]? = some line) (t : Session.Turn) :
    let after := stepOf n.server.service n.server.now line.session t
    (n.server.perform (.turn i t)).service = { n.server.service with registry := after.2.1 } ∧
      (n.server.perform (.turn i t)).now = n.server.now ∧
      (n.server.perform (.turn i t)).lines.size = n.server.lines.size ∧
      ∀ j, (n.server.perform (.turn i t)).lines[j]? =
        if j = i then some ⟨after.1, line.outgoing ++ (after.2.2.map Server.frameOf).getD []⟩
        else n.server.lines[j]? := by
  simp only [Server.perform, Server.turn, found, stepOf]
  cases moved : line.session.turn n.server.service n.server.now t with
  | none =>
    refine ⟨rfl, rfl, rfl, fun j => ?_⟩
    by_cases here : j = i
    · subst here
      have whole : line.outgoing ++ ([] : Bytes) = line.outgoing := List.append_nil _
      rw [if_pos rfl]
      show n.server.lines[j]? = some ⟨line.session, line.outgoing ++ []⟩
      rw [whole]
      exact found
    · rw [if_neg here]
      rfl
  | some m =>
    refine ⟨rfl, rfl, ?_, fun j => ?_⟩
    · exact Array.size_setIfInBounds
    · exact Server.getElem?_set found j

/-- The server turns to a connection. -/
private theorem Alongside.serve (alongside : Alongside config count n l) (positive : 0 < config.parties)
    (parties : config.parties ≤ Json.maxNatural) (small : count < Json.maxNatural) (i : Nat) (t : Session.Turn) :
    Alongside config (count + 1) { n with server := n.server.perform (.turn i t) } (n.follow l (.serve i t)) := by
  cases found : n.server.lines[i]? with
  | none =>
    have still : n.server.perform (.turn i t) = n.server := by simp [Server.perform, Server.turn, found]
    have nothing : n.follow l (.serve i t) = l := by
      have untaken : n.taken? i t = none := by simp [Network.taken?, found]
      simp [Network.follow, untaken]
    rw [still, nothing]
    exact alongside.mono (Nat.le_succ count)
  | some line =>
    obtain ⟨w, wire⟩ := alongside.wire_of_line found
    obtain ⟨heard, stands⟩ := alongside.stands wire found
    have situation := alongside.situation positive parties (Nat.le_of_lt small) found
    have agrees := stands.serve situation small t
    obtain ⟨run, returned⟩ := follow_serve wire found l t
    obtain ⟨service, now, size, lines⟩ := perform_turn found t
    generalize usedBy (l.returnedTo i) l.run (w.taken? n.server.service.config.waitTimeout i line.session t) = used
      at agrees run returned
    generalize stepOf n.server.service n.server.now line.session t = after at agrees service lines
    refine ⟨alongside.performed (.turn i t), alongside.size.trans size.symm, ?_, ?_, fun key j => ?_, fun key => ?_, ?_,
      fun j absent => ?_⟩
    · rw [run, service]
      exact agrees.registry
    · rw [run, agrees.now]
      exact alongside.clock.trans now.symm
    · rw [run, lines]
      by_cases here : j = i
      · rw [if_pos here, here]
        exact agrees.own key
      · rw [if_neg here, agrees.others key j here]
        exact alongside.waits key j
    · rw [run]
      exact agrees.generation key
    · intro j other line' there found'
      rw [lines] at found'
      by_cases here : j = i
      · subst here
        rw [if_pos rfl, Option.some.injEq] at found'
        rw [wire, Option.some.injEq] at there
        subst there found'
        rw [returned, if_pos rfl, List.length_append, List.drop_append_of_le_length heard]
        exact ⟨Nat.le_add_right_of_le heard, agrees.stands⟩
      · rw [if_neg here] at found'
        rw [returned, if_neg here]
        obtain ⟨heard', stands'⟩ := alongside.stands there found'
        exact ⟨heard', stands'.mono (Nat.le_succ count)⟩
    · have other : j ≠ i := by
        rintro rfl
        rw [wire] at absent
        cases absent
      rw [returned, if_neg other]
      exact alongside.new j absent

/-- Each action comes to the same on both sides. -/
private theorem Alongside.perform (alongside : Alongside config count n l) (positive : 0 < config.parties)
    (parties : config.parties ≤ Json.maxNatural) (small : count < Json.maxNatural) {a : Action} (fits : a.fits = true) :
    Alongside config (count + 1) (n.perform a) (n.follow l a) := by
  have counted : count ≤ Json.maxNatural := Nat.le_of_lt small
  have more : count ≤ count + 1 := Nat.le_succ count
  cases a with
  | join target => exact (alongside.join target).mono more
  | getBarrier i key =>
    have room : (Request.getBarrier key).encode.length ≤ Frame.maxBody := by
      simpa only [Action.fits, decide_eq_true_eq] using fits
    refine Alongside.mono ?_ more
    exact alongside.call fun wire peer found => ⟨rfl, room⟩
  | ask i barrier ask => exact (alongside.ask barrier ask).mono more
  | leave i => exact (alongside.leave i).mono more
  | advance ms => exact (alongside.advance ms).mono more
  | work i => exact (alongside.work parties counted i).mono more
  | send i k => exact (alongside.send i k).mono more
  | hear i k => exact (alongside.hear i k).mono more
  | serve i t => exact alongside.serve positive parties small i t

/-- So does a run of as many actions as there are numbers to count generations and handles with. -/
theorem Alongside.run (alongside : Alongside config count n l) (positive : 0 < config.parties)
    (parties : config.parties ≤ Json.maxNatural) {actions : List Action} (fits : ∀ a ∈ actions, a.fits = true)
    (counted : count + actions.length ≤ Json.maxNatural) :
    Alongside config (count + actions.length) (n.alongside l actions).1 (n.alongside l actions).2 := by
  induction actions generalizing count n l with
  | nil => exact alongside
  | cons a rest ih =>
    rw [List.length_cons] at counted
    have next := alongside.perform positive parties (by omega) (fits a (List.mem_cons_self ..))
    have whole := ih next (fun a member => fits a (List.mem_cons_of_mem _ member)) (by omega)
    rw [List.length_cons, ← Nat.add_assoc, Nat.add_right_comm]
    exact whole

end
end Remote
end Lockstep
