import Lockstep.Proofs.Barrier.Results
import Lockstep.Proofs.Message.RoundTrip
import Lockstep.Proofs.Registry.Waits
import Lockstep.Proofs.Remote.Network

namespace Lockstep

namespace Client.Duration

private theorem milliseconds_le (d : Duration) : d.milliseconds ≤ Json.maxNatural :=
  Nat.min_le_right ..

end Client.Duration

namespace Remote
open Client

/-- A worker makes this call on the barrier of this key where these keys were asked for on its connection. -/
def Proper (keys : List PartitionKey) (key : PartitionKey) : Call → Prop
  | .getBarrier k => k = key ∧ (Request.getBarrier k).encode.length ≤ Frame.maxBody
  | .wait h _ | .status h | .waiting h | .isBroken h | .abort h | .reset h => keyOf? keys h = some key

private theorem keyOf?_eq {keys : List PartitionKey} {h : Nat} {key : PartitionKey} :
    keyOf? keys h = some key ↔ 0 < h ∧ keys[h - 1]? = some key := by
  unfold keyOf?
  cases h with
  | zero => simp
  | succ h => simp

private theorem keyOf?_le {keys : List PartitionKey} {h : Nat} {key : PartitionKey} (known : keyOf? keys h = some key) :
    h ≤ keys.length := by
  obtain ⟨positive, found⟩ := keyOf?_eq.mp known
  have inside : h - 1 < keys.length := (List.getElem?_eq_some_iff.mp found).1
  omega

theorem keyOf?_append {keys : List PartitionKey} {h : Nat} {key : PartitionKey} (known : keyOf? keys h = some key)
    (more : List PartitionKey) : keyOf? (keys ++ more) h = some key := by
  obtain ⟨positive, found⟩ := keyOf?_eq.mp known
  have inside : h - 1 < keys.length := (List.getElem?_eq_some_iff.mp found).1
  refine keyOf?_eq.mpr ⟨positive, ?_⟩
  rw [List.getElem?_append_left inside]
  exact found

/-- The key that is asked for next has the next handle. -/
theorem keyOf?_last (keys : List PartitionKey) (key : PartitionKey) :
    keyOf? (keys ++ [key]) (keys.length + 1) = some key := by
  simp [keyOf?]

section
variable {keys : List PartitionKey} {key : PartitionKey} {call : Call}

theorem Proper.append (proper : Proper keys key call) (more : List PartitionKey) : Proper (keys ++ more) key call := by
  cases call with
  | getBarrier k => exact proper
  | wait h _ | status h | waiting h | isBroken h | abort h | reset h => exact keyOf?_append (h := h) proper more

theorem Proper.small (proper : Proper keys key call) (few : keys.length ≤ Json.maxNatural) : call.request.Small := by
  have handle : ∀ {h : Handle}, keyOf? keys h = some key → h ≤ Json.maxNatural := by
    intro h known
    exact Nat.le_trans (keyOf?_le known) few
  cases call with
  | getBarrier k => trivial
  | wait h timeout =>
    refine ⟨handle (h := h) proper, fun ms told => ?_⟩
    obtain ⟨d, _, rfl⟩ := Option.map_eq_some_iff.mp told
    exact d.milliseconds_le
  | status h | waiting h | isBroken h | abort h | reset h => exact handle (h := h) proper

theorem Proper.fits (proper : Proper keys key call) (few : keys.length ≤ Json.maxNatural) :
    call.request.encode.length ≤ Frame.maxBody := by
  have small := proper.small few
  cases call with
  | getBarrier k => exact proper.2
  | wait h timeout => exact Request.encode_fits small (by simp [Call.request]) (by simp [Call.request])
  | status h | waiting h | isBroken h | abort h | reset h =>
    exact Request.encode_fits small (by simp [Call.request]) (by simp [Call.request])

end

/-- The barriers are those of a server with these settings and have come to this generation at most. -/
structure Ordinary (config : ServerConfig) (generation : Nat) (r : Registry) : Prop where
  options : r.options = config.barrierOptions
  own : ∀ key, (r.barrierFor key).options = config.barrierOptions
  waiting : ∀ key, (r.barrierFor key).waiting.length < config.parties
  generation : ∀ key, (r.barrierFor key).generation ≤ generation

/-- A response that a worker can read. -/
structure Readable (response : Response) : Prop where
  decoded : Response.decode? response.encode = some response
  fits : response.encode.length ≤ Frame.maxBody

theorem Readable.of_small {response : Response} (small : response.Small)
    (brief : ∀ code message, response = .error code message → message.length ≤ 30000) : Readable response :=
  ⟨Response.decode?_encode small, Response.encode_fits small brief⟩

section
variable {config : ServerConfig} {generation : Nat} {run : Registry.Run (PartitionKey × Nat)} {keys : List PartitionKey}
  {key : PartitionKey}

private theorem Ordinary.readable (ordinary : Ordinary config generation run.registry)
    (parties : config.parties ≤ Json.maxNatural) (counted : generation ≤ Json.maxNatural) :
    Readable (.status (run.registry.barrierFor key).status) := by
  have waiting := ordinary.waiting key
  have own := ordinary.generation key
  refine .of_small ⟨?_, ?_, ?_⟩ (by simp)
  · show (run.registry.barrierFor key).options.parties ≤ _
    rw [ordinary.own key]
    exact parties
  · show (run.registry.barrierFor key).waiting.length ≤ _
    omega
  · show (run.registry.barrierFor key).generation ≤ _
    omega

/-- A call that is answered at once. -/
structure Answered (run : Registry.Run (PartitionKey × Nat)) (keys : List PartitionKey) (key : PartitionKey)
    (call : Call) (u : Registry.Use Nat) (response : Response) : Prop where
  answer : call.request.answer? run.registry keys = some response
  readable : Readable response
  outcome : outcome? keys.length call (run.answer key u) = some (call.conclude response)
  effect : (run.use key u).registry = call.request.effect run.registry keys
  now : (run.use key u).now = run.now
  waits : ∀ name, (run.use key u).find? name = run.find? name

private theorem answered_getBarrier (ordinary : Ordinary config generation run.registry) (positive : 0 < config.parties)
    (parties : config.parties ≤ Json.maxNatural) (few : keys.length < Json.maxNatural) :
    Answered run keys key (.getBarrier key) .getOrCreate (.handle (keys.length + 1) run.registry.options.parties) := by
  have known : run.answer key .getOrCreate =
      .barrier (some { (run.registry.barrierFor key).status with parties := run.registry.options.parties }) := by
    have own := ordinary.own key
    rw [← ordinary.options] at own
    rcases run.registry.getOrCreate_cases key with ⟨place, found, got⟩ | ⟨new, _, got⟩ | ⟨_, none, _⟩
    · simp [Registry.Run.answer, got, Registry.statusAt?, Registry.barrier?_of_find? found, Barrier.status, own]
    · have fresh : run.registry.barrierFor key = { options := run.registry.options } := by
        simp [Registry.barrierFor, new]
      simp [Registry.Run.answer, got, Registry.statusAt?, Registry.barrier?, Registry.size, fresh, Barrier.status]
    · rw [ordinary.options] at none
      exact absurd none (by simp only [ServerConfig.barrierOptions]; omega)
  refine ⟨rfl, .of_small ⟨few, ?_⟩ (by simp), ?_, rfl, rfl, fun _ => rfl⟩
  · rw [ordinary.options]
    exact parties
  · rw [known]
    rfl

/-- What asks for the status of a barrier. -/
private theorem answered_status (ordinary : Ordinary config generation run.registry)
    (parties : config.parties ≤ Json.maxNatural) (counted : generation ≤ Json.maxNatural) {h : Handle}
    (known : keyOf? keys h = some key) {place : Registry.Place} (found : run.registry.find? key = some place)
    {call : Call} (asks : call = .status h ∨ call = .waiting h ∨ call = .isBroken h) :
    Answered run keys key call .get (.status (run.registry.barrierFor key).status) := by
  have answer : run.answer key .get = .barrier (some (run.registry.barrierFor key).status) := by
    simp [Registry.Run.answer, Registry.statusAt?, found, Registry.barrier?_of_find? found]
  have asked : call.request = .status h := by
    rcases asks with rfl | rfl | rfl <;> rfl
  refine ⟨?_, ordinary.readable parties counted, ?_, ?_, rfl, fun _ => rfl⟩
  · rw [asked]
    simp [Request.answer?, Request.answer?.on, known]
  · rw [answer]
    rcases asks with rfl | rfl | rfl <;> rfl
  · rw [asked]
    rfl

/-- What breaks or opens a generation. -/
private theorem answered_command {h : Handle} (known : keyOf? keys h = some key)
    {place : Registry.Place} (found : run.registry.find? key = some place) {call : Call} {u : Registry.Use Nat}
    (commands : call = .abort h ∧ u = .abort ∨ call = .reset h ∧ u = .reset) : Answered run keys key call u .ok := by
  have used : ∀ op : Registry.Place → Registry.Operation (PartitionKey × Nat),
      run.withBarrier key op = run.perform (op place) := by
    intro op
    simp [Registry.Run.withBarrier, found]
  have readable : Readable .ok := .of_small trivial (by simp)
  rcases commands with ⟨rfl, rfl⟩ | ⟨rfl, rfl⟩
  all_goals
    refine ⟨by simp [Call.request, Request.answer?, Request.answer?.on, known], readable, rfl, ?_, ?_, fun _ => ?_⟩
    · simp [Registry.Run.use, used, Registry.Run.perform, Registry.Run.update, Call.request, Request.effect,
        Request.effect.on, known, Registry.act, found]
    · simp [Registry.Run.use, used, Registry.Run.perform, Registry.Run.update]
    · simp [Registry.Run.use, used, Registry.Run.perform, Registry.Run.update, Registry.Run.find?]

/-- Every call but a wait is answered at once, and its response means to the worker what the barrier answers. -/
theorem answered_of_proper (ordinary : Ordinary config generation run.registry) (positive : 0 < config.parties)
    (parties : config.parties ≤ Json.maxNatural) (counted : generation ≤ Json.maxNatural)
    (few : keys.length < Json.maxNatural)
    (located : ∀ {h key}, keyOf? keys h = some key → ∃ place, run.registry.find? key = some place) {call : Call}
    (proper : Proper keys key call) (noWait : ∀ h timeout, call ≠ .wait h timeout) (i : Nat) (default : Option Nat) :
    ∃ response, Answered run keys key call (use i default call) response := by
  cases call with
  | wait h timeout => exact absurd rfl (noWait h timeout)
  | getBarrier k =>
    obtain ⟨rfl, _⟩ := proper
    exact ⟨_, answered_getBarrier ordinary positive parties few⟩
  | status h =>
    obtain ⟨place, found⟩ := located proper
    exact ⟨_, answered_status ordinary parties counted proper found (.inl rfl)⟩
  | waiting h =>
    obtain ⟨place, found⟩ := located proper
    exact ⟨_, answered_status ordinary parties counted proper found (.inr (.inl rfl))⟩
  | isBroken h =>
    obtain ⟨place, found⟩ := located proper
    exact ⟨_, answered_status ordinary parties counted proper found (.inr (.inr rfl))⟩
  | abort h =>
    obtain ⟨place, found⟩ := located proper
    exact ⟨_, answered_command proper found (.inl ⟨rfl, rfl⟩)⟩
  | reset h =>
    obtain ⟨place, found⟩ := located proper
    exact ⟨_, answered_command proper found (.inr ⟨rfl, rfl⟩)⟩

end

/-- The response to a wait that ended means to the worker what the barrier says of it. -/
theorem response_of_ends {parties generation : Nat} {result : Barrier.Result}
    (ends : Barrier.Ends parties generation result) (bounded : parties ≤ Json.maxNatural)
    (counted : generation ≤ Json.maxNatural) (issued : Nat) (h : Handle) (timeout : Option Duration) :
    Readable (Session.responseOf result) ∧ outcome? issued (.wait h timeout) (.polled (some result)) =
      some (Call.conclude (.wait h timeout) (Session.responseOf result)) := by
  cases ends with
  | released index inside =>
    refine ⟨.of_small ?_ (by simp [Session.responseOf]), rfl⟩
    show index ≤ Json.maxNatural
    omega
  | refused g small =>
    exact ⟨⟨Response.decode?_encode trivial, Response.broken_fits (Nat.le_trans small counted) (.inl rfl)⟩, rfl⟩
  | broken g small =>
    exact ⟨⟨Response.decode?_encode trivial, Response.broken_fits (Nat.le_trans small counted) (.inr rfl)⟩, rfl⟩

end Remote
end Lockstep
