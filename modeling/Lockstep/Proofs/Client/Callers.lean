import Lockstep.Proofs.Client.Exchange

namespace Lockstep.Client.Exchange

variable {e e' : Exchange} {a : Action} {p : Pending Nat} {rest : List (Pending Nat)}

theorem run_cons (e : Exchange) (a : Action) (actions : List Action) : e.run (a :: actions) = (e.step a).run actions :=
  rfl

/-- Only the first call owns the connection, and only one that is of use. -/
structure Queued (e : Exchange) : Prop where
  behind : ∀ p ∈ e.channel.calls.tail, p.stage = .queued
  shut : e.channel.usable = false → ∀ p ∈ e.channel.calls, p.stage = .queued

private theorem Queued.others (queued : Queued e) (calls : e.channel.calls = p :: rest) :
    ∀ q ∈ rest, q.stage = .queued := by
  intro q member
  exact queued.behind q (by rw [calls]; exact member)

theorem Queued.usable (queued : Queued e) (calls : e.channel.calls = p :: rest) (owns : p.stage ≠ .queued) :
    e.channel.usable = true := by
  cases usable : e.channel.usable with
  | true => rfl
  | false => exact absurd (queued.shut usable p (by rw [calls]; exact List.mem_cons_self ..)) owns

private theorem mem_tail_append {α : Type} {l : List α} {x y : α} (member : y ∈ (l ++ [x]).tail) :
    y ∈ l.tail ∨ y = x := by
  cases l with
  | nil => simp at member
  | cons first l => simpa using member

private theorem mem_tail_filter {α : Type} {l : List α} {keep : α → Bool} {y : α} (member : y ∈ (l.filter keep).tail) :
    y ∈ l.tail := by
  cases l with
  | nil => simp at member
  | cons first l =>
    rw [List.filter_cons] at member
    split at member
    · exact (List.mem_filter.mp member).1
    · exact (List.mem_filter.mp (List.mem_of_mem_tail member)).1

private theorem Queued.all (all : ∀ p ∈ e.channel.calls, p.stage = .queued) : Queued e :=
  ⟨fun p member => all p (List.mem_of_mem_tail member), fun _ => all⟩

theorem Queued.step (queued : Queued e) (stepped : Stepped e a e') : Queued e' := by
  cases stepped with
  | made clone call =>
    constructor
    · intro p member
      rcases mem_tail_append member with old | rfl
      · exact queued.behind p old
      · rfl
    · intro unusable p member
      rcases List.mem_append.mp member with old | new
      · exact queued.shut unusable p old
      · rw [List.mem_singleton.mp new]
  | took calls stage usable =>
    refine ⟨queued.others calls, fun unusable => ?_⟩
    rw [usable] at unusable
    cases unusable
  | wrote calls stage =>
    refine ⟨queued.others calls, fun unusable => ?_⟩
    rw [queued.usable calls (by simp [stage])] at unusable
    cases unusable
  | late calls | answered calls | lost calls => exact .all (queued.others calls)
  | dropped waits =>
    exact ⟨fun p member => queued.behind p (mem_tail_filter member),
      fun unusable p member => queued.shut unusable p (List.mem_filter.mp member).1⟩
  | withdrawn calls named =>
    refine .all fun q member => ?_
    obtain ⟨old, other⟩ := List.mem_filter.mp member
    rw [calls] at old
    rcases List.mem_cons.mp old with rfl | later
    · simp [named] at other
    · exact queued.others calls q later
  | carried | served | brought | cut | refused | strayed | idle => exact ⟨queued.behind, queued.shut⟩

theorem queued_start (parties : Nat) : Queued (start parties) :=
  .all nofun

/-- A step of a connection on which the calls are in order is one of those that are described. -/
theorem Queued.stepped (queued : Queued e) (a : Action) : Stepped e a (e.step a) :=
  step_stepped e a queued.behind

/-- What each step keeps holds as long as the connection is used. -/
theorem Queued.run {P : Exchange → Prop} (queued : Queued e) (holds : P e)
    (keeps : ∀ {e e' : Exchange} {a : Action}, Queued e → P e → Stepped e a e' → P e') (actions : List Action) :
    Queued (e.run actions) ∧ P (e.run actions) := by
  induction actions generalizing e with
  | nil => exact ⟨queued, holds⟩
  | cons a actions ih => exact ih (queued.step (queued.stepped a)) (keeps queued holds (queued.stepped a))

section
variable {made : List (Nat × Call)} {calls calls' : List (Pending Nat)} {asked : List (Nat × Call)}
  {returned : List (Nat × Call × Except Fault Answer)} {name : Nat} {call : Call}

/-- The call of that number is this one. -/
def Made (made : List (Nat × Call)) (name : Nat) (call : Call) : Prop :=
  ∃ clone, made[name]? = some (clone, call)

private theorem Made.lt (known : Made made name call) : name < made.length := by
  obtain ⟨clone, there⟩ := known
  exact (List.getElem?_eq_some_iff.mp there).1

private theorem Made.append (known : Made made name call) (more : List (Nat × Call)) :
    Made (made ++ more) name call := by
  have within := known.lt
  obtain ⟨clone, there⟩ := known
  exact ⟨clone, by rw [List.getElem?_append_left within, there]⟩

/-- Calls are made, write their requests and return in one order. -/
structure Ordered (made : List (Nat × Call)) (calls : List (Pending Nat)) (asked : List (Nat × Call))
    (returned : List (Nat × Call × Except Fault Answer)) : Prop where
  calls_made : ∀ p ∈ calls, Made made p.name p.call
  asked_made : ∀ a ∈ asked, Made made a.1 a.2
  returned_made : ∀ r ∈ returned, Made made r.1 r.2.1
  calls_order : calls.Pairwise (·.name < ·.name)
  asked_order : asked.Pairwise (·.1 < ·.1)
  returned_order : returned.Pairwise (·.1 < ·.1)
  /-- A call that has not written its request was made after all that have. -/
  asked_before : ∀ p ∈ calls, p.stage ≠ .receiving → ∀ a ∈ asked, a.1 < p.name
  returned_before : ∀ p ∈ calls, ∀ r ∈ returned, r.1 < p.name

namespace Ordered

private theorem make (ordered : Ordered made calls asked returned) (clone : Nat) (call : Call) :
    Ordered (made ++ [(clone, call)]) (calls ++ [{ name := made.length, call }]) asked returned where
  calls_made := by
    intro p member
    rcases List.mem_append.mp member with old | new
    · exact (ordered.calls_made p old).append _
    · obtain rfl := List.mem_singleton.mp new
      exact ⟨clone, by simp⟩
  asked_made a member := (ordered.asked_made a member).append _
  returned_made r member := (ordered.returned_made r member).append _
  calls_order := by
    refine List.pairwise_append.mpr ⟨ordered.calls_order, List.pairwise_singleton .., fun p member q new => ?_⟩
    obtain rfl := List.mem_singleton.mp new
    exact (ordered.calls_made p member).lt
  asked_order := ordered.asked_order
  returned_order := ordered.returned_order
  asked_before := by
    intro p member stage a asked
    rcases List.mem_append.mp member with old | new
    · exact ordered.asked_before p old stage a asked
    · obtain rfl := List.mem_singleton.mp new
      exact (ordered.asked_made a asked).lt
  returned_before := by
    intro p member r returned
    rcases List.mem_append.mp member with old | new
    · exact ordered.returned_before p old r returned
    · obtain rfl := List.mem_singleton.mp new
      exact (ordered.returned_made r returned).lt

/-- Calls go away. -/
private theorem shrink (ordered : Ordered made calls asked returned) (fewer : calls'.Sublist calls) :
    Ordered made calls' asked returned where
  calls_made p member := ordered.calls_made p (fewer.subset member)
  asked_made := ordered.asked_made
  returned_made := ordered.returned_made
  calls_order := ordered.calls_order.sublist fewer
  asked_order := ordered.asked_order
  returned_order := ordered.returned_order
  asked_before p member := ordered.asked_before p (fewer.subset member)
  returned_before p member := ordered.returned_before p (fewer.subset member)

private theorem take (ordered : Ordered made (p :: rest) asked returned) (stage : p.stage ≠ .receiving) :
    Ordered made ({ p with stage := .sending } :: rest) asked returned where
  calls_made := List.forall_mem_cons.mpr (List.forall_mem_cons.mp ordered.calls_made)
  asked_made := ordered.asked_made
  returned_made := ordered.returned_made
  calls_order := List.pairwise_cons.mpr (List.pairwise_cons.mp ordered.calls_order)
  asked_order := ordered.asked_order
  returned_order := ordered.returned_order
  asked_before := by
    obtain ⟨first, others⟩ := List.forall_mem_cons.mp ordered.asked_before
    exact List.forall_mem_cons.mpr ⟨fun _ => first stage, others⟩
  returned_before := List.forall_mem_cons.mpr (List.forall_mem_cons.mp ordered.returned_before)

/-- The first call writes its request, or a part of it. -/
private theorem ask (ordered : Ordered made (p :: rest) asked returned) (stage : p.stage ≠ .receiving) :
    Ordered made ({ p with stage := .receiving } :: rest) (asked ++ [(p.name, p.call)]) returned where
  calls_made := List.forall_mem_cons.mpr (List.forall_mem_cons.mp ordered.calls_made)
  asked_made := by
    intro a member
    rcases List.mem_append.mp member with old | new
    · exact ordered.asked_made a old
    · obtain rfl := List.mem_singleton.mp new
      exact ordered.calls_made p (List.mem_cons_self ..)
  returned_made := ordered.returned_made
  calls_order := List.pairwise_cons.mpr (List.pairwise_cons.mp ordered.calls_order)
  asked_order := by
    refine List.pairwise_append.mpr ⟨ordered.asked_order, List.pairwise_singleton .., fun a old b new => ?_⟩
    obtain rfl := List.mem_singleton.mp new
    exact ordered.asked_before p (List.mem_cons_self ..) stage a old
  returned_order := ordered.returned_order
  asked_before := by
    refine List.forall_mem_cons.mpr ⟨fun listens => absurd rfl listens, fun q later stage' a member => ?_⟩
    rcases List.mem_append.mp member with old | new
    · exact ordered.asked_before q (List.mem_cons_of_mem _ later) stage' a old
    · obtain rfl := List.mem_singleton.mp new
      exact (List.pairwise_cons.mp ordered.calls_order).1 q later
  returned_before := List.forall_mem_cons.mpr (List.forall_mem_cons.mp ordered.returned_before)

/-- The first call returns. -/
private theorem finish (ordered : Ordered made (p :: rest) asked returned) (outcome : Except Fault Answer) :
    Ordered made rest asked (returned ++ [(p.name, p.call, outcome)]) where
  calls_made := (List.forall_mem_cons.mp ordered.calls_made).2
  asked_made := ordered.asked_made
  returned_made := by
    intro r member
    rcases List.mem_append.mp member with old | new
    · exact ordered.returned_made r old
    · obtain rfl := List.mem_singleton.mp new
      exact ordered.calls_made p (List.mem_cons_self ..)
  calls_order := (List.pairwise_cons.mp ordered.calls_order).2
  asked_order := ordered.asked_order
  returned_order := by
    refine List.pairwise_append.mpr ⟨ordered.returned_order, List.pairwise_singleton .., fun r old s new => ?_⟩
    obtain rfl := List.mem_singleton.mp new
    exact ordered.returned_before p (List.mem_cons_self ..) r old
  asked_before := (List.forall_mem_cons.mp ordered.asked_before).2
  returned_before := by
    intro q later r member
    rcases List.mem_append.mp member with old | new
    · exact ordered.returned_before q (List.mem_cons_of_mem _ later) r old
    · obtain rfl := List.mem_singleton.mp new
      exact (List.pairwise_cons.mp ordered.calls_order).1 q later

end Ordered
end

/-- The calls of an exchange are in order. -/
def InOrder (e : Exchange) : Prop :=
  Ordered e.made e.channel.calls e.asked e.returned

private theorem inOrder_start (parties : Nat) : InOrder (start parties) :=
  ⟨nofun, nofun, nofun, .nil, .nil, .nil, nofun, nofun⟩

private theorem InOrder.stopped (inOrder : InOrder e) (calls : e.channel.calls = p :: rest) (stopped : Stopped e p e') :
    ∃ stage, Ordered e'.made ({ p with stage } :: rest) e'.asked e'.returned := by
  rw [InOrder, calls] at inOrder
  cases stopped with
  | silent => exact ⟨p.stage, inOrder⟩
  | amid part sends => exact ⟨.receiving, inOrder.ask (by simp [sends])⟩

private theorem InOrder.step (inOrder : InOrder e) (stepped : Stepped e a e') : InOrder e' := by
  cases stepped with
  | made clone call => exact inOrder.make clone call
  | took calls stage =>
    rw [InOrder, calls] at inOrder
    exact inOrder.take (by simp [stage])
  | late calls =>
    rw [InOrder, calls] at inOrder
    exact inOrder.finish _
  | wrote calls stage =>
    rw [InOrder, calls] at inOrder
    exact inOrder.ask (by simp [stage])
  | answered calls =>
    rw [InOrder, calls] at inOrder
    exact inOrder.finish _
  | lost calls _ _ stopped =>
    obtain ⟨stage, ordered⟩ := inOrder.stopped calls stopped
    exact ordered.finish _
  | dropped => exact inOrder.shrink List.filter_sublist
  | withdrawn calls named _ stopped =>
    obtain ⟨stage, ordered⟩ := inOrder.stopped calls stopped
    refine ordered.shrink ?_
    rw [calls, List.filter_cons_of_neg (by simp [named])]
    exact List.filter_sublist.trans (List.sublist_cons_self ..)
  | carried | served | brought | cut | refused | strayed | idle => exact inOrder

/-- The call whose request is under way. -/
def owing? : List (Pending Nat) → Option (Nat × Call)
  | [] => none
  | p :: _ => if p.stage = .receiving then some (p.name, p.call) else none

theorem owing?_of_deaf (deaf : p.stage ≠ .receiving) (rest : List (Pending Nat)) : owing? (p :: rest) = none :=
  if_neg deaf

private theorem owing?_of_receiving (stage : p.stage = .receiving) (rest : List (Pending Nat)) :
    owing? (p :: rest) = some (p.name, p.call) :=
  if_pos stage

private theorem owing?_of_queued {calls : List (Pending Nat)} (queued : ∀ p ∈ calls, p.stage = .queued) :
    owing? calls = none := by
  cases calls with
  | nil => rfl
  | cons p rest => exact owing?_of_deaf (by simp [queued p (List.mem_cons_self ..)]) rest

private theorem owing?_append (calls : List (Pending Nat)) (deaf : p.stage ≠ .receiving) :
    owing? (calls ++ [p]) = owing? calls := by
  cases calls with
  | nil => exact owing?_of_deaf deaf []
  | cons first rest => rfl

/-- To cancel a call that waits for the connection makes no difference to the one that has it. -/
private theorem owing?_filter {name : Nat} {calls : List (Pending Nat)} (behind : ∀ p ∈ calls.tail, p.stage = .queued)
    (waits : ∀ p ∈ calls, p.name = name → p.stage = .queued) :
    owing? (calls.filter (·.name ≠ name)) = owing? calls := by
  cases calls with
  | nil => rfl
  | cons p rest =>
    by_cases stage : p.stage = .receiving
    · have stays : p.name ≠ name := fun named => by simp [waits p (List.mem_cons_self ..) named] at stage
      rw [List.filter_cons_of_pos (by simpa using stays), owing?_of_receiving stage, owing?_of_receiving stage]
    · rw [owing?_of_deaf stage]
      by_cases named : p.name = name
      · rw [List.filter_cons_of_neg (by simpa using named)]
        exact owing?_of_queued fun q member => behind q (List.mem_filter.mp member).1
      · rw [List.filter_cons_of_pos (by simpa using named), owing?_of_deaf stage]

/-- As long as the connection is of use, all requests but the one that is under way are answered. -/
structure Counted (e : Exchange) : Prop where
  due : e.channel.usable = true →
    ∃ done, e.asked = done ++ (owing? e.channel.calls).toList ∧ done.length = e.heard.length
  single : e.asked.length ≤ e.heard.length + 1

/-- Each response was taken by the call whose request stands where the response does; all other calls that returned
    failed without one. -/
def Told (asked : List (Nat × Call)) (heard : List Bytes) (name : Nat) (call : Call) (outcome : Except Fault Answer) :
    Prop :=
  (∃ (k : Nat) (body : Bytes) (response : Response), asked[k]? = some (name, call) ∧ heard[k]? = some body ∧
      Response.decode? body = some response ∧ outcome = call.conclude response) ∨
    ∃ f, outcome = .error f ∧ (f = Channel.closedBefore ∨ Lost call f)

theorem getElem?_of_prefix {α : Type} {l l' : List α} (begins : l <+: l') {k : Nat} {x : α} (there : l[k]? = some x) :
    l'[k]? = some x := by
  obtain ⟨more, rfl⟩ := begins
  rw [List.getElem?_append_left (List.getElem?_eq_some_iff.mp there).1, there]

private theorem Told.mono {asked asked' : List (Nat × Call)} {heard heard' : List Bytes} {name : Nat} {call : Call}
    {outcome : Except Fault Answer} (told : Told asked heard name call outcome) (more : asked <+: asked')
    (more' : heard <+: heard') : Told asked' heard' name call outcome := by
  rcases told with ⟨k, body, response, asked, heard, read, outcome⟩ | failed
  · exact .inl ⟨k, body, response, getElem?_of_prefix more asked, getElem?_of_prefix more' heard, read, outcome⟩
  · exact .inr failed

private theorem Stopped.asked (stopped : Stopped e p e') : e.asked <+: e'.asked := by
  cases stopped with
  | silent => exact List.prefix_rfl
  | amid => exact List.prefix_append ..

private theorem Stopped.heard (stopped : Stopped e p e') : e.heard <+: e'.heard := by
  cases stopped <;> exact List.prefix_rfl

private theorem counted_start (parties : Nat) : Counted (start parties) :=
  ⟨fun _ => ⟨[], rfl, rfl⟩, Nat.zero_le _⟩

private theorem Counted.closed (counted : Counted e) (queued : Queued e) (calls : e.channel.calls = p :: rest)
    (owns : p.stage ≠ .queued) (stopped : Stopped e p e') : e'.asked.length ≤ e'.heard.length + 1 := by
  cases stopped with
  | silent => exact counted.single
  | amid part sends =>
    obtain ⟨done, asked, equal⟩ := counted.due (queued.usable calls owns)
    rw [calls, owing?_of_deaf (by simp [sends])] at asked
    simp [put, asked, equal]

private theorem Counted.step (counted : Counted e) (queued : Queued e) (stepped : Stepped e a e') : Counted e' := by
  cases stepped with
  | made clone call =>
    refine ⟨fun usable => ?_, counted.single⟩
    obtain ⟨done, asked, equal⟩ := counted.due usable
    exact ⟨done, by rw [Channel.enqueue, owing?_append _ (by simp), ← asked], equal⟩
  | took calls stage usable =>
    refine ⟨fun _ => ?_, counted.single⟩
    obtain ⟨done, asked, equal⟩ := counted.due usable
    rw [calls, owing?_of_deaf (by simp [stage])] at asked
    exact ⟨done, by simpa [owing?] using asked, equal⟩
  | late => exact ⟨fun usable => Bool.noConfusion usable, counted.single⟩
  | wrote calls stage fits =>
    obtain ⟨done, asked, equal⟩ := counted.due (queued.usable calls (by simp [stage]))
    rw [calls, owing?_of_deaf (by simp [stage])] at asked
    -- all requests before are answered, and this one is under way
    refine ⟨fun _ => ⟨e.asked, ?_, ?_⟩, ?_⟩
    · rw [owing?_of_receiving rfl]
      rfl
    · simp [put, asked, equal]
    · simp [put, asked, equal]
  | answered calls stage found read =>
    obtain ⟨done, asked, equal⟩ := counted.due (queued.usable calls (by simp [stage]))
    rw [calls, owing?_of_receiving stage] at asked
    -- the last request is answered, too, and those behind the call have not asked
    refine ⟨fun _ => ⟨e.asked, ?_, ?_⟩, ?_⟩
    · rw [owing?_of_queued (queued.others calls)]
      simp
    · simp [asked, equal]
    · simp [asked, equal]
  | lost calls owns _ stopped =>
    have within := counted.closed queued calls owns stopped
    exact ⟨fun usable => Bool.noConfusion usable, within⟩
  | dropped waits =>
    refine ⟨fun usable => ?_, counted.single⟩
    obtain ⟨done, asked, equal⟩ := counted.due usable
    exact ⟨done, by rw [owing?_filter queued.behind waits, ← asked], equal⟩
  | withdrawn calls _ owns stopped =>
    have within := counted.closed queued calls owns stopped
    exact ⟨fun usable => Bool.noConfusion usable, within⟩
  | carried | served | brought | cut | refused | strayed | idle => exact ⟨counted.due, counted.single⟩

/-- Whatever returned came to what it was told. -/
def AllTold (e : Exchange) : Prop :=
  ∀ r ∈ e.returned, Told e.asked e.heard r.1 r.2.1 r.2.2

private theorem allTold_start (parties : Nat) : AllTold (start parties) :=
  nofun

private theorem AllTold.keep (told : AllTold e) (returned : e'.returned = e.returned) (asked : e.asked <+: e'.asked)
    (heard : e.heard <+: e'.heard) : AllTold e' := by
  intro r member
  rw [returned] at member
  exact (told r member).mono asked heard

private theorem AllTold.grow (told : AllTold e) {news : List (Nat × Call × Except Fault Answer)}
    (returned : e'.returned = e.returned ++ news) (asked : e.asked <+: e'.asked) (heard : e.heard <+: e'.heard)
    (new : ∀ r ∈ news, Told e'.asked e'.heard r.1 r.2.1 r.2.2) : AllTold e' := by
  intro r member
  rw [returned] at member
  rcases List.mem_append.mp member with old | late
  · exact (told r old).mono asked heard
  · exact new r late

private theorem Stopped.returned (stopped : Stopped e p e') : e'.returned = e.returned := by
  cases stopped <;> rfl

/-- The response that a call takes stands where its request stands, because it is the only one that is under way. -/
private theorem AllTold.step (told : AllTold e) (queued : Queued e) (counted : Counted e) (stepped : Stepped e a e') :
    AllTold e' := by
  cases stepped with
  | late calls =>
    refine told.grow rfl List.prefix_rfl List.prefix_rfl fun r late => ?_
    obtain rfl := List.mem_singleton.mp late
    exact .inr ⟨_, rfl, .inl rfl⟩
  | answered calls stage found read =>
    refine told.grow rfl List.prefix_rfl (List.prefix_append ..) fun r late => ?_
    obtain rfl := List.mem_singleton.mp late
    obtain ⟨done, asked, equal⟩ := counted.due (queued.usable calls (by simp [stage]))
    rw [calls, owing?_of_receiving stage] at asked
    exact .inl ⟨e.heard.length, _, _, by simp [asked, ← equal], by simp, read, rfl⟩
  | lost calls owns lost stopped =>
    refine told.grow (by rw [stopped.returned]) stopped.asked stopped.heard fun r late => ?_
    obtain rfl := List.mem_singleton.mp late
    exact .inr ⟨_, rfl, .inr lost⟩
  | wrote => exact told.keep rfl (List.prefix_append ..) List.prefix_rfl
  | withdrawn calls _ _ stopped => exact told.keep stopped.returned stopped.asked stopped.heard
  | made | took | dropped | carried | served | brought | cut | refused | strayed | idle => exact told

theorem callers_run (parties : Nat) (actions : List Action) :
    Queued ((start parties).run actions) ∧ InOrder ((start parties).run actions) ∧
      Counted ((start parties).run actions) ∧ AllTold ((start parties).run actions) := by
  refine (queued_start parties).run (P := fun e => InOrder e ∧ Counted e ∧ AllTold e)
    ⟨inOrder_start parties, counted_start parties, allTold_start parties⟩
    (fun queued ⟨inOrder, counted, told⟩ stepped => ?_) actions
  exact ⟨inOrder.step stepped, counted.step queued stepped, told.step queued counted stepped⟩

/-- This ends the connection: the call that owns it is cancelled, or fails without a response. -/
def Forfeits (e : Exchange) : Action → Prop
  | .cancel name _ => ∃ p ∈ e.channel.calls, p.name = name ∧ p.stage ≠ .queued
  | .turn _ => ∃ m name call f, e.channel.turn = some m ∧ m.finished = some (name, call, .error f) ∧ Lost call f
  | _ => False

/-- The descriptions of the faults that responses mean. -/
def responseDescriptions : List String :=
  ["Rendezvous server returned an error", "Unexpected response from rendezvous server"]

private theorem description_of_conclude {call : Call} {response : Response} {f : Fault}
    (concluded : call.conclude response = .error f) : f.description ∈ responseDescriptions := by
  cases call <;> cases response <;> simp only [Call.conclude, Except.error.injEq, reduceCtorEq] at concluded <;>
    simp [← concluded, Code.fault, unexpected, responseDescriptions]

private theorem description_of_lost {call : Call} {f : Fault} (lost : Lost call f) :
    f.description ∉ responseDescriptions := by
  cases lost with
  | unsent | unreadable => decide
  | framing failure => cases failure <;> decide
  | closed =>
    change "Rendezvous server closed the connection" ∉ responseDescriptions
    decide

/-- What a response means to a call is nothing that it fails with without one. -/
theorem conclude_ne_lost {call : Call} {f : Fault} (lost : Lost call f) (response : Response) :
    call.conclude response ≠ .error f :=
  fun concluded => description_of_lost lost (description_of_conclude concluded)

theorem usable_step (usable : e.channel.usable = true) (a : Action) :
    (e.step a).channel.usable = false ↔ e.Forfeits a := by
  cases a with
  | turn part =>
    cases moved : e.channel.turn with
    | none => simp [step, Forfeits, moved, usable]
    | some m =>
      have after : (e.step (.turn part)).channel = m.channel := by simp [step, moved, apply]
      rw [after]
      obtain ⟨p, rest, calls, turned⟩ := Channel.turn_cases moved
      cases turned with
      | took | wrote => simp [Forfeits, moved, usable]
      | late _ unusable => simp [usable] at unusable
      | answered =>
        refine iff_of_false (by simp [usable]) ?_
        rintro ⟨m', name, call, f, moved', finished, lost⟩
        rw [moved] at moved'
        cases moved'
        simp only [Option.some.injEq, Prod.mk.injEq] at finished
        obtain ⟨rfl, rfl, concluded⟩ := finished
        exact conclude_ne_lost lost _ concluded
      | lost owns _ lost => exact iff_of_true rfl ⟨_, _, _, _, moved, rfl, lost⟩
  | cancel name part => simp [step, Channel.cancel, Forfeits, usable]
  | answer body =>
    refine iff_of_false ?_ id
    simp only [step]
    split <;> simp [usable]
  | bring count =>
    refine iff_of_false ?_ id
    simp only [step]
    split <;> simp [usable]
  | make | carry | cut | refuse | stray => simp [step, Channel.enqueue, Forfeits, usable]

/-- From here on nothing is written and no response is taken, and calls that return find the connection closed. -/
structure Over (e e' : Exchange) : Prop where
  unusable : e'.channel.usable = false
  written : e'.written = e.written
  asked : e'.asked = e.asked
  heard : e'.heard = e.heard
  returned : ∃ late, e'.returned = e.returned ++ late ∧ ∀ r ∈ late, r.2.2 = .error Channel.closedBefore

private theorem Over.refl (unusable : e.channel.usable = false) : Over e e :=
  ⟨unusable, rfl, rfl, rfl, [], (List.append_nil _).symm, by simp⟩

private theorem Over.trans {e'' : Exchange} (ended : Over e e') (ended' : Over e' e'') : Over e e'' := by
  obtain ⟨late, returned, faults⟩ := ended.returned
  obtain ⟨late', returned', faults'⟩ := ended'.returned
  refine ⟨ended'.unusable, ended'.written.trans ended.written, ended'.asked.trans ended.asked,
    ended'.heard.trans ended.heard, late ++ late', by rw [returned', returned, List.append_assoc], ?_⟩
  exact List.forall_mem_append.mpr ⟨faults, faults'⟩

private theorem over_step (queued : Queued e) (unusable : e.channel.usable = false) (stepped : Stepped e a e') :
    Over e e' := by
  have waits : ∀ {p rest}, e.channel.calls = p :: rest → p.stage = .queued := fun calls =>
    queued.shut unusable _ (by rw [calls]; exact List.mem_cons_self ..)
  cases stepped with
  | took _ _ usable => simp [unusable] at usable
  | late => exact ⟨rfl, rfl, rfl, rfl, _, rfl, by simp⟩
  | wrote calls stage | answered calls stage => simp [waits calls] at stage
  | lost calls owns | withdrawn calls _ owns => exact absurd (waits calls) owns
  | made | dropped | carried | served | brought | cut | refused | strayed | idle =>
    exact ⟨unusable, rfl, rfl, rfl, [], (List.append_nil _).symm, by simp⟩

theorem over_run (queued : Queued e) (unusable : e.channel.usable = false) (actions : List Action) :
    Over e (e.run actions) := by
  induction actions generalizing e with
  | nil => exact .refl unusable
  | cons a actions ih =>
    have stepped := queued.stepped a
    have ended := over_step queued unusable stepped
    exact ended.trans (ih (queued.step stepped) ended.unusable)

/-- All calls that wait for a connection that is of no use fail, one with each turn. -/
theorem run_turns_of_unusable (queued : Queued e) (unusable : e.channel.usable = false) :
    (e.run (List.replicate e.channel.calls.length (.turn 0))).channel.calls = [] ∧
      (e.run (List.replicate e.channel.calls.length (.turn 0))).returned =
        e.returned ++ e.channel.calls.map fun p => (p.name, p.call, .error Channel.closedBefore) := by
  generalize length : e.channel.calls = calls
  induction calls generalizing e with
  | nil => exact ⟨length, (List.append_nil _).symm⟩
  | cons p rest ih =>
    have stage : p.stage = .queued := queued.shut unusable p (by rw [length]; exact List.mem_cons_self ..)
    have turned : e.step (.turn 0) =
        { e with
          channel := { e.channel with usable := false, calls := rest }
          returned := e.returned ++ [(p.name, p.call, .error Channel.closedBefore)] } := by
      simp [step, Channel.turn, Channel.take, Channel.fail, apply, stop, response?, length, stage, unusable]
    have after := ih (queued.step (queued.stepped (.turn 0))) (by rw [turned]) (by rw [turned])
    rw [List.length_cons, List.replicate_succ, run_cons]
    refine ⟨after.1, ?_⟩
    rw [after.2, turned]
    simp

end Lockstep.Client.Exchange
