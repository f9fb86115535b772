import Lockstep.Proofs.Remote.Stand

namespace Lockstep.Remote
open Client

variable {config : ServerConfig} {count : Nat} {rs : List Return} {w : Wire} {s : Session} {down : Bytes}
  {c : Channel PartitionKey}

theorem Joined.mono (joined : Joined count rs w c s) {count' : Nat} (more : count ≤ count') : Joined count' rs w c s :=
  { joined with few := Nat.le_trans joined.few more }

/-- What is known of a worker does not depend on what is under way. -/
theorem Joined.of_same (joined : Joined count rs w c s) {w' : Wire} {s' : Session} (keys : s'.keys = s.keys)
    (made : w'.made = w.made) (returned : w'.returned = w.returned) : Joined count rs w' c s' where
  usable := joined.usable
  gone := joined.gone
  goes := joined.goes
  issued := by rw [keys]; exact joined.issued
  handed := by rw [keys]; exact joined.handed
  few := by rw [keys]; exact joined.few
  proper := by rw [keys]; exact joined.proper
  queued := joined.queued
  made := by rw [made, returned]; exact joined.made

private theorem Progress.live (progress : Progress rs w c s down) : s.hasEnded = false := by
  cases progress with
  | free _ phase => exact Session.live_of_serving phase
  | asked _ _ _ _ phase => exact Session.live_of_serving phase
  | waiting _ _ _ _ _ _ _ _ _ phase => exact Session.live_of_waiting phase
  | answered _ _ _ _ _ phase => exact Session.live_of_serving phase

theorem Stands.mono (stands : Stands config count rs w s down) {count' : Nat} (more : count ≤ count') :
    Stands config count' rs w s down := by
  cases stands with
  | joining h peer made returned none handles joining => exact .joining h peer made returned none handles joining
  | worker c peer joined progress => exact .worker c peer (joined.mono more) progress
  | nobody peer same made left => exact .nobody peer same made left

theorem Stands.of_worker (stands : Stands config count rs w s down) (peer : w.peer = .worker c) :
    Joined count rs w c s ∧ Progress rs w c s down := by
  cases stands with
  | worker c' peer' joined progress =>
    rw [peer, Peer.worker.injEq] at peer'
    subst peer'
    exact ⟨joined, progress⟩
  | joining h other =>
    rw [peer] at other
    cases other
  | nobody other =>
    rw [peer] at other
    cases other

/-- Some of what the worker wrote reaches the server. -/
theorem Stands.send (stands : Stands config count rs w s down) (k : Nat) :
    Stands config count rs { w with sent := w.sent.drop k } { s with inlet := s.inlet.push (w.sent.take k) } down := by
  have come : ∀ {body : Option Bytes}, s.Clear w.sent body →
      ({ s with inlet := s.inlet.push (w.sent.take k) } : Session).Clear (w.sent.drop k) body := by
    intro body clear
    refine Session.Clear.push ?_
    rw [List.take_append_drop]
    exact clear
  cases stands with
  | joining h peer made returned none handles joining =>
    refine .joining h peer made returned none handles (Joining.receive ?_)
    rw [List.take_append_drop]
    exact joining
  | nobody peer same made left =>
    refine .nobody peer same made (Left.receive ?_)
    rw [List.take_append_drop]
    exact left
  | worker c peer joined progress =>
    refine .worker c peer (joined.of_same rfl rfl rfl) ?_
    cases progress with
    | free idle phase clear holds same => exact .free idle phase (come clear) holds same
    | asked p rest calls stage phase clear holds same => exact .asked p rest calls stage phase (come clear) holds same
    | waiting p rest h timeout place wait calls stage call phase clear holds same =>
      exact .waiting p rest h timeout place wait calls stage call phase (come clear) holds same
    | answered p rest response calls stage phase clear readable holds same =>
      exact .answered p rest response calls stage phase (come clear) readable holds same

/-- Some of what the server wrote reaches the worker. -/
theorem Stands.hear (stands : Stands config count rs w s down) (k heard : Nat) {closed : Bool}
    (ended : closed = true → s.hasEnded = true) :
    Stands config count rs { w with peer := w.peer.hear (down.take k) closed, heard } s (down.drop k) := by
  cases stands with
  | joining h peer made returned none handles joining =>
    refine .joining _ (by rw [peer]; rfl) made returned none handles (Joining.hear ?_ ended)
    rw [List.take_append_drop]
    exact joining
  | nobody peer same made left => exact .nobody (by rw [peer]; rfl) same made left
  | worker c peer joined progress =>
    have goesOn : closed = false := by
      cases closed with
      | false => rfl
      | true => simp [progress.live] at ended
    subst goesOn
    have peer' : w.peer.hear (down.take k) false = .worker { c with inlet := c.inlet.push (down.take k) } := by
      rw [peer]
      show Peer.worker _ = _
      rw [Bool.or_false]
      rfl
    have come : ∀ {body : Option Bytes}, c.inlet.Holds down body →
        (c.inlet.push (down.take k)).Holds (down.drop k) body := by
      intro body holds
      refine Frame.Inlet.Holds.push ?_
      rw [List.take_append_drop]
      exact holds
    refine .worker { c with inlet := c.inlet.push (down.take k) } peer' ?_ ?_
    · exact ⟨joined.usable, joined.gone, joined.goes, joined.issued, joined.handed, joined.few, joined.proper,
        joined.queued, joined.made⟩
    · cases progress with
      | free idle phase clear holds same => exact .free idle phase clear (come holds) same
      | asked p rest calls stage phase clear holds same => exact .asked p rest calls stage phase clear (come holds) same
      | waiting p rest h timeout place wait calls stage call phase clear holds same =>
        exact .waiting p rest h timeout place wait calls stage call phase clear (come holds) same
      | answered p rest response calls stage phase clear readable holds same =>
        exact .answered p rest response calls stage phase clear readable (come holds) same

/-- A call is made, and waits for the connection. -/
theorem Stands.call (stands : Stands config count rs w s down) (peer : w.peer = .worker c) {key : PartitionKey}
    {call : Call} (proper : Proper s.keys key call) :
    Stands config count rs { w with peer := .worker (c.enqueue key call), made := w.made ++ [(key, call)] } s down := by
  obtain ⟨joined, progress⟩ := stands.of_worker peer
  refine .worker (c.enqueue key call) rfl ?_ ?_
  · refine ⟨joined.usable, joined.gone, joined.goes, joined.issued, joined.handed, joined.few, fun p member => ?_,
      fun p member => ?_, ?_⟩
    · rcases List.mem_append.mp member with earlier | new
      · exact joined.proper p earlier
      · obtain rfl := List.mem_singleton.mp new
        exact proper
    · cases calls : c.calls with
      | nil => simp [Channel.enqueue, calls] at member
      | cons first rest =>
        simp only [Channel.enqueue, calls, List.cons_append, List.tail_cons] at member
        rcases List.mem_append.mp member with earlier | new
        · exact joined.queued p (by rw [calls]; exact earlier)
        · obtain rfl := List.mem_singleton.mp new
          rfl
    · simp [Channel.enqueue, joined.made]
  · cases progress with
    | free idle phase clear holds same =>
      refine .free (fun p first => ?_) phase clear holds same
      cases calls : c.calls with
      | nil =>
        simp only [Channel.enqueue, calls, List.nil_append, List.head?_cons, Option.some.injEq] at first
        rw [← first]
        exact Stage.noConfusion
      | cons q rest =>
        simp only [Channel.enqueue, calls, List.cons_append, List.head?_cons, Option.some.injEq] at first
        exact idle p (by rw [calls, List.head?_cons, first])
    | asked p rest calls stage phase clear holds same =>
      exact .asked p (rest ++ [{ name := key, call }]) (by simp [Channel.enqueue, calls]) stage phase clear holds same
    | waiting p rest h timeout place wait calls stage waits phase clear holds same =>
      exact .waiting p (rest ++ [{ name := key, call }]) h timeout place wait (by simp [Channel.enqueue, calls]) stage
        waits phase clear holds same
    | answered p rest response calls stage phase clear readable holds same =>
      exact .answered p (rest ++ [{ name := key, call }]) response (by simp [Channel.enqueue, calls]) stage phase
        clear readable holds same

/-- A worker that is welcome has joined. -/
theorem Stands.join (stands : Stands config count rs w s down) {h : Handshake} (peer : w.peer = .joining h)
    (parties : config.parties ≤ Json.maxNatural) {now : Nat} {channel : Channel PartitionKey}
    (turned : h.turn now = some (.ok channel)) :
    Stands config count rs { w with peer := .worker channel } s down := by
  cases stands with
  | worker c other =>
    rw [peer] at other
    cases other
  | nobody other =>
    rw [peer] at other
    cases other
  | joining h' peer' made returned none handles joining =>
    rw [peer, Peer.joining.injEq] at peer'
    subst peer'
    obtain ⟨⟨inlet, rfl, goes, holds⟩, phase, clear⟩ := joining.joined parties turned
    have keys : s.keys = [] := by simp [Session.keys, handles]
    subst none
    refine .worker _ rfl ⟨rfl, rfl, goes, by simp [keys], by simp, by simp [keys], by simp, by simp, ?_⟩ ?_
    · simp [made, returned, callsOf]
    · exact .free (by simp) phase clear holds returned.symm

/-- Whoever hangs up without a call under way leaves nothing behind. -/
theorem Stands.hangUp (stands : Stands config count rs w s down)
    (idle : (∃ h, w.peer = .joining h) ∨ ∃ c, w.peer = .worker c ∧ c.calls = []) :
    Stands config count rs { w with peer := .nobody } { s with inlet := s.inlet.close, gone := true } down := by
  cases stands with
  | nobody peer same made left => exact .nobody rfl same made left.close
  | joining h peer made returned none handles joining =>
    exact .nobody rfl (by rw [none]; exact returned.symm) (by rw [made, returned]; rfl) joining.left.close
  | worker c peer joined progress =>
    have empty : c.calls = [] := by
      rcases idle with ⟨h, other⟩ | ⟨c', peer', empty⟩
      · rw [peer] at other
        cases other
      · rw [peer, Peer.worker.injEq] at peer'
        rw [peer']
        exact empty
    have made := joined.made
    rw [empty, List.map_nil, List.append_nil] at made
    cases progress with
    | free _ phase clear _ same => exact .nobody rfl same made (.idle phase clear.backlog clear.holds.close)
    | asked p rest calls =>
      rw [empty] at calls
      cases calls
    | waiting p rest h timeout place wait calls =>
      rw [empty] at calls
      cases calls
    | answered p rest response calls =>
      rw [empty] at calls
      cases calls

/-- What a turn of a worker is told to the wire. -/
def Wire.after (w : Wire) (m : Channel.Moved PartitionKey) : Wire :=
  { w with
    peer := .worker m.channel
    sent := w.sent ++ m.written
    returned := w.returned ++ (m.finished.map fun (key, call, outcome) => (⟨key, call, outcome⟩ : Return)).toList }

/-- The first call moves on, and all that is known of the others stays. -/
private theorem Joined.advance (joined : Joined count rs w c s) {p : Pending PartitionKey}
    {rest : List (Pending PartitionKey)} (calls : c.calls = p :: rest) (stage : Stage) {w' : Wire}
    (made : w'.made = w.made) (returned : w'.returned = w.returned) :
    Joined count rs w' { c with calls := { p with stage } :: rest } s where
  usable := joined.usable
  gone := joined.gone
  goes := joined.goes
  issued := joined.issued
  handed := joined.handed
  few := joined.few
  proper := fun q member => by
    rcases List.mem_cons.mp member with rfl | later
    · exact joined.proper p (by rw [calls]; exact List.mem_cons_self ..)
    · exact joined.proper q (by rw [calls]; exact List.mem_cons_of_mem _ later)
  queued := fun q member => joined.queued q (by rw [calls]; exact member)
  made := by
    have all := joined.made
    rw [calls] at all
    rw [made, returned, all, List.map_cons, List.map_cons]

theorem Stands.turn (stands : Stands config count rs w s down) (peer : w.peer = .worker c)
    (counted : count ≤ Json.maxNatural) {m : Channel.Moved PartitionKey} (moved : c.turn = some m) :
    m.channel.usable = true ∧ Stands config count rs (w.after m) s down := by
  obtain ⟨joined, progress⟩ := stands.of_worker peer
  unfold Channel.turn at moved
  -- while the request or the wait is under way the worker hears nothing
  have silent : ∀ p rest, c.calls = p :: rest → p.stage = .receiving → c.inlet.Holds down none → False := by
    intro p rest calls stage holds
    obtain ⟨i', pending⟩ := holds.next_none joined.goes
    simp [calls, stage, Channel.listen, hear_pending pending] at moved
  cases progress with
  | asked p rest calls stage _ _ holds => exact (silent p rest calls stage holds).elim
  | waiting p rest h timeout place wait calls stage _ _ _ holds => exact (silent p rest calls stage holds).elim
  | answered p rest response calls stage phase clear readable holds same =>
    rcases holds.next_cases joined.goes with ⟨b, i', here, arrived, found, open_, after⟩ | ⟨_, i', pending, _⟩
    · obtain rfl : response.encode = b := Option.some.inj here
      simp only [calls, stage, Channel.listen, hear_response found readable, Option.some.injEq] at moved
      subst moved
      have queued := joined.queued
      have made := joined.made
      rw [calls] at queued made
      refine ⟨joined.usable, .worker _ rfl ?_ ?_⟩
      · refine ⟨joined.usable, joined.gone, open_, joined.issued, joined.handed, joined.few, fun q member => ?_,
          fun q member => queued q (List.mem_of_mem_tail member), ?_⟩
        · exact joined.proper q (by rw [calls]; exact List.mem_cons_of_mem _ member)
        · simp [Wire.after, made, callsOf]
      · refine .free (fun q first => ?_) phase ?_ ?_ ?_
        · have member : q ∈ rest := List.mem_of_mem_head? first
          rw [queued q member]
          exact Stage.noConfusion
        · simpa [Wire.after] using clear
        · rw [arrived]
          exact after
        · exact same
    · simp [calls, stage, Channel.listen, hear_pending pending] at moved
  | free idle phase clear holds same =>
    cases calls : c.calls with
    | nil => simp [calls] at moved
    | cons p rest =>
      have own := idle p (by rw [calls]; rfl)
      cases stage : p.stage with
      | receiving => exact absurd stage own
      | queued =>
        simp only [calls, stage] at moved
        rw [Channel.take, if_pos joined.usable, Option.some.injEq] at moved
        subst moved
        have next : Joined count rs (w.after { channel := { c with calls := { p with stage := .sending } :: rest } })
            { c with calls := { p with stage := .sending } :: rest } s := by
          refine joined.advance calls _ ?_ ?_
          · rfl
          · exact List.append_nil _
        refine ⟨joined.usable, .worker _ rfl next ?_⟩
        refine .free (fun q first => ?_) phase (by simpa [Wire.after] using clear) holds
          (by simpa [Wire.after] using same)
        simp only [List.head?_cons, Option.some.injEq] at first
        rw [← first]
        exact Stage.noConfusion
      | sending =>
        have few := joined.few
        have proper := joined.proper p (by rw [calls]; exact List.mem_cons_self ..)
        have fits := proper.fits (by omega)
        have written : Frame.Outlet.send { gone := c.gone } p.call.request.encode =
            (.ok (Frame.frame p.call.request.encode), { gone := c.gone }) := by
          simp [Frame.Outlet.send, joined.gone, Frame.encode_eq fits]
        simp only [calls, stage, Channel.write, written, Option.some.injEq] at moved
        subst moved
        have next : Joined count rs (w.after
            { channel := { c with calls := { p with stage := .receiving } :: rest }
              written := Frame.frame p.call.request.encode })
            { c with calls := { p with stage := .receiving } :: rest } s := by
          refine joined.advance calls _ ?_ ?_
          · rfl
          · exact List.append_nil _
        refine ⟨joined.usable, .worker _ rfl next ?_⟩
        refine .asked { p with stage := .receiving } rest rfl rfl phase ?_ holds (by simpa [Wire.after] using same)
        exact clear.write fits

end Lockstep.Remote
