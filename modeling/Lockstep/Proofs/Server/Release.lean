import Lockstep.Proofs.Server.Chronicle
import Mathlib.Data.List.Induction

/-!
# Released together

A connection is told that it was released only when as many connections as it
takes had dispatched waits on the same key which all arrived in the same
generation. Each of them is told its place among them, and nothing else.
-/
namespace Lockstep

namespace Barrier

/-- Whoever is present arrived and has not gone away since. -/
private theorem arrived_of_present {Name : Type} [DecidableEq Name] {g : Nat} {h : List (Event Name)} {name : Name}
    (member : name ∈ present g h) : ∃ before after, h = before ++ .arrived name g :: after ∧ .left name g ∉ after := by
  induction h using List.reverseRecOn with
  | nil => simp [present] at member
  | append_singleton h e ih =>
    rw [present_append, List.foldl_cons, List.foldl_nil] at member
    have still : name ∈ present g h → e ≠ .left name g →
        ∃ before after, h ++ [e] = before ++ .arrived name g :: after ∧ .left name g ∉ after := by
      intro earlier other
      obtain ⟨before, after, rfl, stays⟩ := ih earlier
      refine ⟨before, after ++ [e], by simp, fun left => ?_⟩
      rcases List.mem_append.mp left with earlier | now
      · exact stays earlier
      · exact other (List.mem_singleton.mp now).symm
    cases e with
    | returned other g' result => exact still member (by simp)
    | arrived other g' =>
      by_cases here : g' = g
      · simp only [Event.tally, here, if_true, List.mem_append, List.mem_singleton] at member
        rcases member with earlier | rfl
        · exact still earlier (by simp)
        · exact ⟨h, [], by simp [here], by simp⟩
      · exact still (by simpa [Event.tally, here] using member) (by simp)
    | left other g' =>
      by_cases here : g' = g
      · simp only [Event.tally, here, if_true, List.mem_filter, decide_eq_true_eq] at member
        exact still member.1 (by simpa using fun equal => absurd equal.symm member.2)
      · exact still (by simpa [Event.tally, here] using member) (by simp [here])

/-- The release comes before anyone is told of it. -/
private theorem release_before_returned {Name : Type} {g : Nat} {name last : Name} {result result' : Result}
    {h h' before after : List (Event Name)} (silent : ∀ other result, .returned other g result ∉ before)
    (split : h ++ .returned name g result :: h' = before ++ .arrived last g :: .returned last g result' :: after) :
    ∃ between, h = before ++ .arrived last g :: between := by
  rcases List.append_eq_append_iff.mp split with ⟨tail, rfl, here⟩ | ⟨tail, rfl, here⟩
  · cases tail with
    | nil => simp at here
    | cons e tail =>
      rw [List.cons_append, List.cons.injEq] at here
      exact absurd (by simp [← here.1]) (silent name result)
  · cases tail with
    | nil => simp at here
    | cons e tail =>
      rw [List.cons_append, List.cons.injEq] at here
      exact ⟨tail, by rw [here.1]⟩

end Barrier

namespace Server

/-- An event at a key stands somewhere in the history. -/
private theorem split_of_eventsAt {key : PartitionKey} {h : List Event} {before after : List (Barrier.Event Nat)}
    {e : Barrier.Event Nat} (split : eventsAt key h = before ++ e :: after) :
    ∃ earlier later, h = earlier ++ .barrier key e :: later ∧ eventsAt key earlier = before ∧
      eventsAt key later = after := by
  obtain ⟨first, rest, rfl, here, there⟩ := List.filterMap_eq_append_iff.mp split
  obtain ⟨silent, shown, later, rfl, none, at?, after'⟩ := List.filterMap_eq_cons_iff.mp there
  rw [at?_eq_some.mp at?]
  refine ⟨first ++ silent, later, by simp, ?_, after'⟩
  rw [eventsAt_append, show eventsAt key silent = [] from List.filterMap_eq_nil_iff.mpr none, List.append_nil]
  exact here

/-- When the last of these connections arrived in the generation, all of them were released, as many as it takes. -/
structure Together (n : Nat) (key : PartitionKey) (g : Nat) (connections : List Nat) (before : List Event) (last : Nat)
    (after : List Event) : Prop where
  /-- The others are those who had arrived and not gone away, in the order of their arrival. -/
  order : connections = Barrier.present g (eventsAt key before) ++ [last]
  count : connections.length = n
  distinct : connections.Nodup
  /-- On each of them a wait on the key was dispatched, after it had shown the secret; that wait arrived in the
      generation and was not given up before the release. -/
  dispatched : ∀ i ∈ connections, ∃ earlier later,
    before ++ [.barrier key (.arrived last g)] = earlier ++ .barrier key (.arrived i g) :: later ∧
      Opened earlier i key ∧ .barrier key (.left i g) ∉ later
  /-- Nobody else arrives in the generation. -/
  closed : ∀ i, .barrier key (.arrived i g) ∉ after
  /-- Whoever finishes in the generation is released, as the one of its place. -/
  returned : ∀ i result, .barrier key (.returned i g result) ∈ before ++ .barrier key (.arrived last g) :: after →
    ∃ index, connections[index]? = some i ∧ result = .released index
  /-- Whoever is answered is told its place. -/
  answered : ∀ i response, .sent i response (some (key, g)) ∈ before ++ .barrier key (.arrived last g) :: after →
    ∃ index, connections[index]? = some i ∧ response = .arrived index
  /-- The barrier is told to be broken only to waits of other generations. -/
  unbroken : ∀ i message wait,
    .sent i (.error .barrierBroken message) wait ∈ before ++ .barrier key (.arrived last g) :: after →
    ∃ key' g', wait = some (key', g') ∧ (key', g') ≠ (key, g)

private theorem responseOf_eq_arrived {result : Barrier.Result} {index : Nat}
    (arrived : Session.responseOf result = .arrived index) : result = .released index := by
  cases result with
  | released i =>
    simp only [Session.responseOf, Response.arrived.injEq] at arrived
    rw [arrived]
  | failed why => simp [Session.responseOf, Response.ofFault] at arrived

/-- A response to a wait tells what the wait came to. -/
private theorem returned_of_sent {h : List Event} (reasoned : Reasoned [] h) {i : Nat} {response : Response}
    {key : PartitionKey} {g : Nat} (member : .sent i response (some (key, g)) ∈ h) :
    ∃ result, .barrier key (.returned i g result) ∈ h ∧ response = Session.responseOf result := by
  obtain ⟨before, after, rfl⟩ := List.append_of_mem member
  obtain ⟨earlier, result, split, told⟩ := reasoned.reason
  exact ⟨result, by simp [show before = _ from split], told⟩

/-- When everyone of a generation is told its place by the barrier, so it is by the server. -/
private theorem answered_of_told {h : List Event} (reasoned : Reasoned [] h) {key : PartitionKey} {g : Nat}
    {connections : List Nat} (told : ∀ i result, .barrier key (.returned i g result) ∈ h →
      ∃ index, connections[index]? = some i ∧ result = .released index)
    {i : Nat} {response : Response} (member : .sent i response (some (key, g)) ∈ h) :
    ∃ index, connections[index]? = some i ∧ response = .arrived index := by
  obtain ⟨result, finished, rfl⟩ := returned_of_sent reasoned member
  obtain ⟨index, place, rfl⟩ := told i result finished
  exact ⟨index, place, rfl⟩

private theorem unbroken_of_told {h : List Event} (reasoned : Reasoned [] h) {key : PartitionKey} {g : Nat}
    {connections : List Nat} (told : ∀ i result, .barrier key (.returned i g result) ∈ h →
      ∃ index, connections[index]? = some i ∧ result = .released index)
    {i : Nat} {message : String} {wait : Option (PartitionKey × Nat)}
    (member : .sent i (.error .barrierBroken message) wait ∈ h) :
    ∃ key' g', wait = some (key', g') ∧ (key', g') ≠ (key, g) := by
  cases wait with
  | none =>
    obtain ⟨before, after, rfl⟩ := List.append_of_mem member
    cases reasoned.reason
  | some about =>
    obtain ⟨key', g'⟩ := about
    refine ⟨key', g', rfl, fun same => ?_⟩
    rw [same] at member
    obtain ⟨_, _, impossible⟩ := answered_of_told reasoned told member
    cases impossible

/-- Whoever is present when the last one arrives has a wait that was dispatched, and the last one has, too. -/
private theorem opened_of_present {key : PartitionKey} {g last : Nat} {before after : List Event}
    (reasoned : Reasoned [] (before ++ .barrier key (.arrived last g) :: after)) {i : Nat}
    (member : i ∈ Barrier.present g (eventsAt key before) ++ [last]) :
    ∃ earlier later, before ++ [.barrier key (.arrived last g)] = earlier ++ .barrier key (.arrived i g) :: later ∧
      Opened earlier i key ∧ .barrier key (.left i g) ∉ later := by
  rcases List.mem_append.mp member with present | new
  · obtain ⟨first, rest, arrived, stays⟩ := Barrier.arrived_of_present present
    obtain ⟨earlier, later, rfl, rfl, rfl⟩ := split_of_eventsAt arrived
    refine ⟨earlier, later ++ [.barrier key (.arrived last g)], by simp, ?_, fun left => ?_⟩
    · have here : Reasoned [] (earlier ++ .barrier key (.arrived i g) ::
          (later ++ .barrier key (.arrived last g) :: after)) := by simpa using reasoned
      exact here.reason
    · rcases List.mem_append.mp left with earlier | now
      · exact stays (mem_eventsAt.mpr earlier)
      · simp at now
  · obtain rfl := List.mem_singleton.mp new
    exact ⟨before, [], rfl, reasoned.reason, by simp⟩

private theorem together_of_freed {b : Barrier} {blocked : Barrier.Blocked Nat} {key : PartitionKey} {g i : Nat}
    {tickets : List Barrier.Ticket} {connections : List Nat} {result : Barrier.Result} {earlier later : List Event}
    (reasoned : Reasoned [] (earlier ++ .barrier key (.returned i g result) :: later))
    (freed : Barrier.Freed b blocked (eventsAt key (earlier ++ .barrier key (.returned i g result) :: later)) g tickets
      connections) :
    ∃ before last between, earlier = before ++ .barrier key (.arrived last g) :: between ∧
      Together b.options.parties key g connections before last
        (between ++ .barrier key (.returned i g result) :: later) := by
  obtain ⟨before, last, after, split, order, silent, closed⟩ := freed.release
  have split' : eventsAt key earlier ++ .returned i g result :: eventsAt key later = before ++ .arrived last g ::
      .returned last g (.released (b.options.parties - 1)) :: after := by
    rw [← split]
    simp
  obtain ⟨rest, first⟩ := Barrier.release_before_returned silent split'
  obtain ⟨before, between, rfl, rfl, rfl⟩ := split_of_eventsAt first
  have whole : before ++ .barrier key (.arrived last g) :: between ++ .barrier key (.returned i g result) :: later =
      before ++ .barrier key (.arrived last g) :: (between ++ .barrier key (.returned i g result) :: later) := by
    simp
  rw [whole] at reasoned freed split
  have told := fun j told member => freed.told j told (mem_eventsAt.mpr member)
  refine ⟨before, last, between, rfl, order, freed.length, freed.nodup, fun j member => ?_, fun j member => ?_, told,
    fun j response => answered_of_told reasoned told, fun j message wait => unbroken_of_told reasoned told⟩
  · rw [order] at member
    exact opened_of_present reasoned member
  · have rest : eventsAt key (between ++ .barrier key (.returned i g result) :: later) =
        .returned last g (.released (b.options.parties - 1)) :: after := by simpa using split
    have shown := mem_eventsAt.mpr member
    rw [rest] at shown
    rcases List.mem_cons.mp shown with other | late
    · cases other
    · exact closed j late

/-- A generation in which someone is released was released. -/
private theorem freed_of_released {b : Barrier} {blocked : Barrier.Blocked Nat} {h : List (Barrier.Event Nat)}
    {g i index : Nat} (story : Barrier.Story b blocked h g) (member : .returned i g (.released index) ∈ h) :
    ∃ tickets connections, b.outcome? g = some (.released tickets) ∧
      Barrier.Freed b blocked h g tickets connections ∧ connections[index]? = some i := by
  cases known : b.outcome? g with
  | none => exact absurd member ((story.unsettled known).silent i _)
  | some outcome =>
    cases outcome with
    | broken =>
      rcases story.failed known i _ member with impossible | impossible
      · cases impossible
      · cases impossible
    | released tickets =>
      obtain ⟨connections, freed⟩ := story.freed known
      obtain ⟨place, here, same⟩ := freed.told i _ member
      cases same
      exact ⟨tickets, connections, rfl, freed, here⟩

/-- Whoever of a released generation still has its wait open is released, as the one of its place, when it is polled. -/
private theorem poll_of_freed {s : Server} (linked : s.Linked) {key : PartitionKey} {h : List (Barrier.Event Nat)}
    {g : Nat} {tickets : List Barrier.Ticket} {connections : List Nat}
    (known : (s.service.registry.barrierFor key).outcome? g = some (.released tickets))
    (freed : Barrier.Freed (s.service.registry.barrierFor key) (s.blockedOn key) h g tickets connections) {i : Nat}
    {line : Line} {place : Registry.Place} {w : Barrier.Wait} {a : Barrier.Arrival} {b : Barrier}
    (found : s.lines[i]? = some line) (opened : line.session.openWait? = some (key, place, w))
    (arrived : w.arrival = some a) (generation : a.generation = g)
    (there : s.service.registry.barrier? place = some b) :
    ∃ index, connections[index]? = some i ∧ (b.poll s.now w).2.1 = .done (.released index) := by
  obtain ⟨_, _, _, located⟩ := (linked found).waiting_of_openWait? opened
  rw [Registry.barrier?_of_find? located, Option.some.injEq] at there
  have blocked : s.blockedOn key i = some a := by
    simp [blockedOn_of_line found, Session.arrivalOn?, opened, arrived]
  obtain ⟨index, here, ticketed⟩ := freed.listed i a blocked generation
  refine ⟨index, here, ?_⟩
  rw [← there, Barrier.poll_of_outcome arrived (by rw [generation]; exact known)]
  simp [Barrier.Outcome.result, ticketed]

/-- Whenever a connection is told that it was released, it was released together with as many others as it takes,
    and it is told its place among them. Who of them has not been told yet is released when its wait is polled. -/
theorem released_together {config : ServerConfig} (positive : 0 < config.parties) (secret : Secret)
    (address : Address) (complaint : Bytes → String)
    (ops : List Operation) {earlier later : List Event} {i index : Nat} {wait : Option (PartitionKey × Nat)}
    (shown : (start config secret address complaint).history ops = earlier ++ .sent i (.arrived index) wait :: later) :
    ∃ key g connections before last between, wait = some (key, g) ∧
      earlier = before ++ .barrier key (.arrived last g) :: between ∧ connections[index]? = some i ∧
      Together config.parties key g connections before last (between ++ .sent i (.arrived index) wait :: later) ∧
      ∀ j line place w a b, ((start config secret address complaint).run ops).lines[j]? = some line →
        line.session.openWait? = some (key, place, w) → w.arrival = some a → a.generation = g →
        ((start config secret address complaint).run ops).service.registry.barrier? place = some b →
        ∃ k, connections[k]? = some j ∧
          (b.poll ((start config secret address complaint).run ops).now w).2.1 = .done (.released k) := by
  have chronicle := start_chronicle config secret address complaint ops
  have linked : ((start config secret address complaint).run ops).Linked :=
    (start_turned config secret address complaint ops).linked
  rw [shown] at chronicle
  have reason : Reason earlier (.sent i (.arrived index) wait) := chronicle.reasoned.reason
  cases wait with
  | none => cases reason
  | some about =>
    obtain ⟨key, g⟩ := about
    obtain ⟨first, result, rfl, told⟩ := reason
    obtain rfl := responseOf_eq_arrived told.symm
    have whole : first ++ [.barrier key (.returned i g (.released index))] ++
        .sent i (.arrived index) (some (key, g)) :: later =
        first ++ .barrier key (.returned i g (.released index)) ::
          .sent i (.arrived index) (some (key, g)) :: later := by simp
    obtain ⟨_, options, stories⟩ := story_of_run config secret address complaint positive ops key
    have story := stories g
    rw [shown, whole] at story
    have finished : Barrier.Event.returned i g (.released index) ∈ eventsAt key
        (first ++ .barrier key (.returned i g (.released index)) ::
          .sent i (.arrived index) (some (key, g)) :: later) :=
      mem_eventsAt.mpr (by simp)
    obtain ⟨tickets, connections, known, freed, here⟩ := freed_of_released story finished
    obtain ⟨before, last, between, rfl, together⟩ := together_of_freed (whole ▸ chronicle.reasoned) freed
    rw [options] at together
    refine ⟨key, g, connections, before, last, between ++ [.barrier key (.returned i g (.released index))], rfl,
      by simp, here, by simpa [ServerConfig.barrierOptions] using together, ?_⟩
    intro j line place w a b found opened arrived generation there
    exact poll_of_freed linked known freed found opened arrived generation there

/-- Two connections show the secret and wait on one key, the second one first. -/
def pair (secret : Secret) : List Operation :=
  let bytes := [Request.hello secret.toBase64, .getBarrier ⟨"a", "b"⟩, .wait 1 none].flatMap fun r =>
    Frame.lengthBytes r.encode.length ++ r.encode
  [.accept, .accept, .receive 0 bytes, .receive 1 bytes, .turn 0 .input, .turn 1 .input, .turn 0 .input, .turn 1 .input,
    .turn 1 .input, .turn 1 .look, .turn 0 .input, .turn 0 .look, .turn 1 .look]

theorem released_together_pair :
    0 < ({ parties := 2 } : ServerConfig).parties ∧ ∃ connections before last after,
      Together 2 ⟨"a", "b"⟩ 0 connections before last after ∧ connections[1]? = some 0 := by
  let secret : Secret := ⟨List.replicate 32 7, rfl⟩
  have member : .sent 0 (.arrived 1) (some (⟨"a", "b"⟩, 0)) ∈
      (start { parties := 2 } secret (.v4 127 0 0 1 50000) Request.complaint).history (pair secret) := by decide +kernel
  obtain ⟨earlier, later, shown⟩ := List.append_of_mem member
  obtain ⟨key, g, connections, before, last, between, about, _, place, together, _⟩ :=
    released_together (by decide) secret (.v4 127 0 0 1 50000) Request.complaint (pair secret) shown
  cases about
  exact ⟨by decide, connections, before, last, _, together, place⟩

end Server
end Lockstep
