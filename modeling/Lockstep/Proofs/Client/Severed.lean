import Lockstep.Cluster.Run
import Lockstep.Proofs.Client.Turn
import Lockstep.Proofs.Frame.Chunks
import Lockstep.Proofs.Message.RoundTrip

/-!
# Connections that are cut

A call whose connection ends before the response is whole fails. Whether the
worker can tell from the fault that the connection is lost depends on the byte at
which it ended (`severed_reads_as_broken_iff`): it can when nothing of the
response had come, or its length alone, and it cannot anywhere else.
-/
namespace Lockstep.Frame

/-- A reader that waits without a length has not received one. -/
private theorem Reader.short_of_starved {r rest : Reader} (found : r.read = .starved rest)
    (unknown : rest.expected = none) : rest.buffer.length < 4 := by
  obtain ⟨expected, buffer⟩ := r
  cases expected with
  | some length =>
    obtain ⟨rfl, _⟩ := readBody_starved found
    cases unknown
  | none =>
    match buffer with
    | a :: b :: c :: d :: buffer =>
      simp only [read] at found
      split at found
      · cases found
      · obtain ⟨rfl, _⟩ := readBody_starved found
        cases unknown
    | [] | [_] | [_, _] | [_, _, _] =>
      cases found
      simp

/-- Nothing is left in the buffer when no byte has come, or the length alone, which was taken off. -/
private theorem Reader.isEmpty_of_starved {r rest : Reader} (found : r.read = .starved rest) :
    rest.buffer.isEmpty = true ↔ rest.unread.length = 0 ∨ rest.unread.length = 4 := by
  cases known : rest.expected with
  | none =>
    have short := short_of_starved found known
    simp only [unread, known, Option.map_none, Option.getD_none, List.nil_append, List.isEmpty_iff,
      List.length_eq_zero_iff]
    exact ⟨.inl, fun length => length.elim id fun four => absurd four (by omega)⟩
  | some length =>
    simp [unread, known, lengthBytes]

/-- What comes out of a stream that ended inside a frame. -/
private theorem Inlet.next_severed {i : Inlet} (goes : i.failed = false) (closed : i.closed = true)
    (fits : i.reader.Fits) {body missing : Bytes} (small : body.length ≤ maxBody)
    (cut : i.unread ++ missing = frame body) (part : missing ≠ []) :
    i.next.1 = if i.unread.length = 0 ∨ i.unread.length = 4 then .finished else .failed .cut := by
  obtain ⟨rest, read⟩ := i.reader.read_part fits small cut part
  have same : rest.unread = i.unread := (Reader.read_starved fits read).1
  have empty := Reader.isEmpty_of_starved read
  rw [same] at empty
  by_cases nothing : i.unread.length = 0 ∨ i.unread.length = 4
  · rw [if_pos nothing]
    simp [next, goes, closed, read, empty.mpr nothing]
  · have left : rest.buffer.isEmpty = false := by
      cases here : rest.buffer.isEmpty with
      | true => exact absurd (empty.mp here) nothing
      | false => rfl
    rw [if_neg nothing]
    simp [next, goes, closed, read, left]

end Lockstep.Frame

namespace Lockstep.Client

variable {Name : Type}

namespace Channel

/-- The first call waits for its response, and nothing of it has come. -/
structure Awaits (c : Channel Name) (p : Pending Name) (rest : List (Pending Name)) : Prop where
  calls : c.calls = p :: rest
  stage : p.stage = .receiving
  goes : c.inlet.Open
  fits : c.inlet.reader.Fits
  quiet : c.inlet.unread = []

/-- Bytes come in from the server. -/
def hear (c : Channel Name) (bytes : Bytes) : Channel Name :=
  { c with inlet := c.inlet.push bytes }

/-- The connection is cut. -/
def sever (c : Channel Name) : Channel Name :=
  { c with inlet := c.inlet.close }

private theorem hear_all (c : Channel Name) (chunks : List Bytes) : chunks.foldl hear c = c.hear chunks.flatten := by
  induction chunks generalizing c with
  | nil => simp [hear, Frame.Inlet.push, Frame.Reader.push]
  | cons chunk chunks ih => simp [ih, hear, Frame.Inlet.push, Frame.Reader.push_push]

/-- What a call fails with whose connection is cut after so many bytes of the response. -/
def severance (call : Call) (count : Nat) : Fault :=
  if count = 0 ∨ count = 4 then closedDuring call else Frame.Failure.cut.fault

private theorem severance_isBrokenBarrier (call : Call) (count : Nat) :
    (severance call count).isBrokenBarrier = true ↔ count = 0 ∨ count = 4 := by
  by_cases clean : count = 0 ∨ count = 4
  · rw [severance, if_pos clean]
    exact iff_of_true rfl clean
  · rw [severance, if_neg clean]
    exact iff_of_false (by decide) clean

section
variable {c : Channel Name} {p : Pending Name} {rest : List (Pending Name)} {bytes body missing : Bytes}

private theorem Awaits.unread (awaits : c.Awaits p rest) (bytes : Bytes) : (c.hear bytes).inlet.unread = bytes := by
  have quiet : c.inlet.reader.unread = [] := awaits.quiet
  simp [hear, Frame.Inlet.unread, Frame.Inlet.push, quiet]

private theorem Awaits.turn_hear (awaits : c.Awaits p rest) (small : body.length ≤ Frame.maxBody)
    (cut : bytes ++ missing = Frame.frame body) (part : missing ≠ []) : (c.hear bytes).turn = none := by
  obtain ⟨closed, goes⟩ := awaits.goes
  obtain ⟨starved, read⟩ := (c.hear bytes).inlet.reader.read_part (awaits.fits.push bytes) small
    (by rw [← cut]; exact congrArg (· ++ missing) (awaits.unread bytes)) part
  have pending : (c.hear bytes).inlet.next = (.pending, { (c.hear bytes).inlet with reader := starved }) := by
    have goes' : (c.hear bytes).inlet.failed = false := goes
    have closed' : (c.hear bytes).inlet.closed = false := closed
    simp [Frame.Inlet.next, goes', closed', read]
  have calls : (c.hear bytes).calls = p :: rest := awaits.calls
  rw [turn_of_receiving calls awaits.stage, listen, hear_pending pending]

private theorem Awaits.turn_sever (awaits : c.Awaits p rest) (small : body.length ≤ Frame.maxBody)
    (cut : bytes ++ missing = Frame.frame body) (part : missing ≠ []) :
    ∃ inlet, (c.hear bytes).sever.turn = some ({ c with inlet }.fail p rest (severance p.call bytes.length)) := by
  have calls : (c.hear bytes).sever.calls = p :: rest := awaits.calls
  have unread : (c.hear bytes).sever.inlet.unread = bytes := awaits.unread bytes
  have ended := (c.hear bytes).sever.inlet.next_severed awaits.goes.2 rfl (awaits.fits.push bytes) small
    (by rw [unread, cut]) part
  rw [unread] at ended
  rcases found : (c.hear bytes).sever.inlet.next with ⟨item, inlet⟩
  rw [found] at ended
  refine ⟨inlet, ?_⟩
  by_cases clean : bytes.length = 0 ∨ bytes.length = 4
  · rw [if_pos clean] at ended
    obtain rfl : item = .finished := ended
    rw [severance, if_pos clean, turn_of_receiving calls awaits.stage, listen, hear_finished found]
    rfl
  · rw [if_neg clean] at ended
    obtain rfl : item = .failed .cut := ended
    rw [severance, if_neg clean, turn_of_receiving calls awaits.stage, listen, hear_failed found]
    rfl

/-- A call waits for its response until all of it has come. If the connection is cut before that, the call fails and
    takes the connection with it. The fault tells that the connection is lost if nothing had come, or the length
    alone; it does not tell so at any other place. -/
theorem severed_reads_as_broken_iff [DecidableEq Name] (awaits : c.Awaits p rest) (small : body.length ≤ Frame.maxBody)
    (chunks : List Bytes) (cut : chunks.flatten ++ missing = Frame.frame body) (part : missing ≠ []) :
    (chunks.foldl hear c).turn = none ∧
      ∃ moved fault, (chunks.foldl hear c).sever.turn = some moved ∧
        moved.finished = some (p.name, p.call, .error fault) ∧ moved.channel.usable = false ∧
        fault = severance p.call chunks.flatten.length ∧
        (fault.isBrokenBarrier = true ↔ chunks.flatten.length = 0 ∨ chunks.flatten.length = 4) := by
  rw [hear_all]
  obtain ⟨inlet, fails⟩ := awaits.turn_sever small cut part
  exact ⟨awaits.turn_hear small cut part, _, _, fails, rfl, rfl, rfl, severance_isBrokenBarrier ..⟩

end

/-- A call that waits on a barrier. -/
def blocked : Pending Nat :=
  { name := 0, call := .wait 4 none, stage := .receiving }

theorem severed_inside_the_length :
    ({ parties := 3, inlet := {}, calls := [blocked] } : Channel Nat).Awaits blocked [] ∧
      (Response.arrived 1).encode.length ≤ Frame.maxBody ∧
      [[0], [0]].flatten ++ (Frame.frame (Response.arrived 1).encode).drop 2 =
        Frame.frame (Response.arrived 1).encode ∧
      (Frame.frame (Response.arrived 1).encode).drop 2 ≠ [] ∧
      ∃ moved fault,
        ([[0], [0]].foldl hear ({ parties := 3, inlet := {}, calls := [blocked] } : Channel Nat)).sever.turn =
            some moved ∧
          moved.finished = some (0, .wait 4 none, .error fault) ∧ fault.isBrokenBarrier = false := by
  have awaits : ({ parties := 3, inlet := {}, calls := [blocked] } : Channel Nat).Awaits blocked [] :=
    ⟨rfl, rfl, ⟨rfl, rfl⟩, Frame.Reader.fits_new, rfl⟩
  have small : (Response.arrived 1).encode.length ≤ Frame.maxBody := by decide +kernel
  have cut : [[0], [0]].flatten ++ (Frame.frame (Response.arrived 1).encode).drop 2 =
      Frame.frame (Response.arrived 1).encode := by decide +kernel
  have part : (Frame.frame (Response.arrived 1).encode).drop 2 ≠ [] := by decide +kernel
  obtain ⟨_, moved, fault, turned, finished, _, _, broken⟩ := severed_reads_as_broken_iff awaits small _ cut part
  refine ⟨awaits, small, cut, part, moved, fault, turned, finished, ?_⟩
  cases told : fault.isBrokenBarrier with
  | false => rfl
  | true => exact absurd (broken.mp told) (by decide)

/-- The call fails with a fault which tells that its generation is broken, or its connection lost. -/
def FailsBroken (m : Moved Name) (p : Pending Name) : Prop :=
  ∃ fault, m.finished = some (p.name, p.call, .error fault) ∧ fault.isBrokenBarrier = true

/-- These are the last bytes before the connection is cut: in whatever pieces they come, the first call fails so. -/
structure Breaks (c : Channel Name) (p : Pending Name) (bytes : Bytes) : Prop where
  early : ∀ {chunks : List Bytes} {m : Moved Name}, chunks.flatten <+: bytes →
    (chunks.foldl hear c).turn = some m → FailsBroken m p
  ended : ∀ {chunks : List Bytes}, chunks.flatten = bytes →
    ∃ m, (chunks.foldl hear c).sever.turn = some m ∧ FailsBroken m p

section
variable {c : Channel Name} {p : Pending Name} {rest : List (Pending Name)}

/-- A response that has come as a whole is taken, whether or not the connection is cut by now. -/
private theorem turn_of_response (calls : c.calls = p :: rest) (stage : p.stage = .receiving)
    (goes : c.inlet.failed = false) (whole : c.inlet.reader.Fits) {response : Response} (small : response.Small)
    (fits : response.encode.length ≤ Frame.maxBody) (there : c.inlet.unread = Frame.frame response.encode) :
    ∃ m, c.turn = some m ∧ m.finished = some (p.name, p.call, p.call.conclude response) := by
  have found := Frame.Inlet.next_whole goes whole fits (there.trans (List.append_nil _).symm)
  rw [turn_of_receiving calls stage, listen, hear_readable found (Response.decode?_encode small)]
  exact ⟨_, rfl, rfl⟩

/-- A connection that is cut without another byte. -/
theorem Awaits.breaks_of_silence (awaits : c.Awaits p rest) : c.Breaks p [] := by
  have small : ([] : Bytes).length ≤ Frame.maxBody := by decide
  have cut : [] ++ Frame.frame [] = Frame.frame [] := rfl
  have part := Frame.Inlet.frame_ne_nil []
  constructor
  · intro chunks m heard turned
    rw [hear_all, List.prefix_nil.mp heard, awaits.turn_hear small cut part] at turned
    cases turned
  · intro chunks heard
    obtain ⟨inlet, fails⟩ := awaits.turn_sever small cut part
    rw [hear_all, heard]
    exact ⟨_, fails, _, rfl, rfl⟩

/-- A connection that is cut after the response that the generation was broken. -/
theorem Awaits.breaks_of_told (awaits : c.Awaits p rest) {message : String}
    (fits : (Response.error .barrierBroken message).encode.length ≤ Frame.maxBody) :
    c.Breaks p (Frame.frame (Response.error .barrierBroken message).encode) := by
  have small : (Response.error .barrierBroken message).Small := trivial
  constructor
  · intro chunks m heard turned
    obtain ⟨missing, cut⟩ := heard
    rw [hear_all] at turned
    by_cases part : missing = []
    · rw [part, List.append_nil] at cut
      rw [cut] at turned
      obtain ⟨m', turned', finished⟩ := turn_of_response (c := c.hear _) awaits.calls awaits.stage awaits.goes.2
        (awaits.fits.push _) small fits (awaits.unread _)
      rw [turned', Option.some.injEq] at turned
      rw [← turned]
      exact ⟨_, finished, rfl⟩
    · rw [awaits.turn_hear fits cut part] at turned
      cases turned
  · intro chunks heard
    rw [hear_all, heard]
    obtain ⟨m, turned, finished⟩ := turn_of_response (c := (c.hear _).sever) awaits.calls awaits.stage awaits.goes.2
      (awaits.fits.push _) small fits (awaits.unread _)
    exact ⟨m, turned, _, finished, rfl⟩

end

end Channel

/-- A host that answers a wait with these bytes and hangs up. -/
def hangingUp (bytes : Bytes) : Cluster where
  host := .script { entries := [.write (Frame.frame (Response.welcome 3).encode) false,
    .write (Frame.frame (Response.handle 4 7).encode) false, .write bytes true] }
  secret := ⟨List.replicate 32 0, rfl⟩

/-- A worker joins, asks for a barrier and waits on it. -/
def waiting : List Cluster.Step :=
  [.join "x" {}, .getBarrier "g" "x" "h" ⟨"a", "b"⟩, .ask "t" "x" "h" (.wait none)]

/-- How the wait failed, and whether the fault tells that the connection is lost. -/
def failures (reports : List Cluster.Report) : List (Fault.Kind × Bool) :=
  reports.flatMap fun report => report.finished.filterMap fun (_, outcome) =>
    match outcome with
    | .error f => some (f.kind, f.isBrokenBarrier)
    | .ok _ => none

/-- A wait whose connection is cut after two bytes of the response, or inside its body, does not fail with a fault that
    tells so. -/
theorem cut_wait_is_not_broken :
    failures ((hangingUp [0, 0]).run waiting) = [(.ioError, false)] ∧
      failures ((hangingUp ((Frame.frame (Response.arrived 1).encode).take 9)).run waiting) = [(.ioError, false)] := by
  decide +kernel

end Lockstep.Client
