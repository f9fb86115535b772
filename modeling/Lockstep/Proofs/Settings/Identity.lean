import Lockstep.CommandLine
import Lockstep.Identity
import Lockstep.Proofs.Secret.RoundTrip
import Lockstep.Proofs.Settings.Texts
import Lockstep.Text.Lines

/-!
# From a server to its workers

What a server publishes are two lines, and a worker that gets their two values as
variables of its environment has the settings that lead to this server
(`Identity.reaches_worker`). An address always has a colon and a secret an equals
sign, so neither is ever taken for a number or a truth value.
-/
namespace Lockstep
namespace Text

/-- Nothing in the text ends a line. -/
def Inline (s : String) : Prop :=
  ∀ c ∈ s.toList, c ≠ '\n' ∧ c ≠ '\r'

theorem Inline.append {s t : String} (first : Inline s) (second : Inline t) : Inline (s ++ t) := by
  intro c member
  rw [String.toList_append, List.mem_append] at member
  rcases member with here | there
  · exact first c here
  · exact second c there

theorem Inline.intercalate {s : String} {pieces : List String} (separator : Inline s)
    (each : ∀ piece ∈ pieces, Inline piece) : Inline (s.intercalate pieces) := by
  induction pieces with
  | nil => simp [Inline]
  | cons piece pieces ih =>
    have first := each piece (List.mem_cons_self ..)
    have others := ih fun p member => each p (List.mem_cons_of_mem _ member)
    cases pieces with
    | nil => rwa [String.intercalate_singleton]
    | cons next pieces =>
      rw [String.intercalate_cons_cons]
      exact (first.append separator).append others

private theorem splitLines_cons {c : Char} {s line : List Char} {more : List (List Char)} (plain : c ≠ '\n')
    (found : splitLines s = line :: more) : splitLines (c :: s) = (c :: line) :: more := by
  rw [splitLines] at found
  rw [splitLines, List.foldr_cons, found]
  simp [plain]

private theorem splitLines_line {s : List Char} (whole : ∀ c ∈ s, c ≠ '\n') : splitLines s = [s] := by
  induction s with
  | nil => rfl
  | cons c s ih =>
    exact splitLines_cons (whole c (List.mem_cons_self ..)) (ih fun d member => whole d (List.mem_cons_of_mem _ member))

private theorem splitLines_append {s : List Char} (whole : ∀ c ∈ s, c ≠ '\n') (rest : List Char) :
    splitLines (s ++ '\n' :: rest) = s :: splitLines rest := by
  induction s with
  | nil => rfl
  | cons c s ih =>
    exact splitLines_cons (whole c (List.mem_cons_self ..)) (ih fun d member => whole d (List.mem_cons_of_mem _ member))

/-- A line feed between two texts that have none makes two lines. -/
private theorem lines_pair {first second : String} (whole : Inline first) (whole' : Inline second)
    (some : second ≠ "") : lines (first ++ "\n" ++ second) = [first, second] := by
  have split : splitLines (first ++ "\n" ++ second).toList = [first.toList, second.toList] := by
    rw [String.toList_append, String.toList_append, List.append_assoc]
    exact (splitLines_append (fun c member => (whole c member).1) _).trans
      (congrArg _ (splitLines_line fun c member => (whole' c member).1))
  have kept : dropReturn first.toList = first.toList :=
    if_neg fun returned => (whole _ (List.mem_of_getLast? returned)).2 rfl
  rw [lines, split]
  simp [kept, some]

end Text

namespace Address

open Text (Inline)

private theorem digitChar_of_mem {base n : Nat} {c : Char} (large : 1 < base) (member : c ∈ Nat.toDigits base n) :
    ∃ d : Nat, c = d.digitChar := by
  induction n using Nat.strongRecOn with
  | _ n ih =>
    rw [Nat.toDigits_eq_if large] at member
    split at member
    · exact ⟨n, List.mem_singleton.mp member⟩
    · rcases List.mem_append.mp member with front | last
      · exact ih _ (Nat.div_lt_self (by omega) large) front
      · exact ⟨_, List.mem_singleton.mp last⟩

private theorem inline_digits {base : Nat} (large : 1 < base) (n : Nat) :
    Inline (String.ofList (Nat.toDigits base n)) := by
  intro c member
  rw [String.toList_ofList] at member
  obtain ⟨d, rfl⟩ := digitChar_of_mem large member
  exact ⟨Nat.digitChar_ne _ rfl, Nat.digitChar_ne _ rfl⟩

private theorem inline_number (n : Nat) : Inline (toString n) := by
  rw [Nat.toString_eq_ofList_toDigits]
  exact inline_digits (by decide) n

private theorem inline_dotted (a b c d : Nat) : Inline (dotted a b c d) := by
  have point : Inline "." := by simp [Inline]
  exact ((((((inline_number a).append point).append (inline_number b)).append point).append
    (inline_number c)).append point).append (inline_number d)

private theorem inline_colons (groups : List Nat) : Inline (colons groups) := by
  refine Inline.intercalate (by simp [Inline]) fun piece member => ?_
  obtain ⟨n, _, rfl⟩ := List.mem_map.mp member
  exact inline_digits (by decide) n

private theorem inline_showGroups (groups : List Nat) : Inline (showGroups groups) := by
  unfold showGroups
  split
  · exact Inline.append (by simp [Inline]) (inline_dotted _ _ _ _)
  · split
    split
    · exact inline_colons _
    · exact ((inline_colons _).append (by simp [Inline])).append (inline_colons _)

private theorem inline_display (a : Address) : Inline a.display := by
  cases a with
  | v4 a b c d port => exact ((inline_dotted a b c d).append (by simp [Inline])).append (inline_number port)
  | v6 groups zone port =>
    have zoned : Inline (if zone = 0 then "" else "%" ++ toString zone) := by
      split
      · simp [Inline]
      · exact Inline.append (by simp [Inline]) (inline_number zone)
    have bracket : Inline "[" := by simp [Inline]
    exact (((bracket.append (inline_showGroups groups)).append zoned).append (by simp [Inline])).append
      (inline_number port)

private theorem colon_mem_display (a : Address) : ':' ∈ a.display.toList := by
  cases a with
  | v4 => simp [display]
  | v6 => simp [display]

end Address

theorem CommandLine.splitEquals_append {name : List Char} (value : List Char) (plain : '=' ∉ name) :
    splitEquals (name ++ '=' :: value) = (String.ofList name, some (String.ofList value)) := by
  have before : ∀ c ∈ name, decide (c ≠ '=') = true := by
    intro c member
    exact decide_eq_true (by rintro rfl; exact plain member)
  rw [splitEquals, List.takeWhile_append_of_pos before, List.dropWhile_append_of_pos before]
  simp

namespace Settings

/-- A worker that has two texts as its variables, neither of which is a number or a truth value, has them as its
    settings. -/
private theorem loadClient_pair {address secret : String} (text : Value.ofText address = .text address)
    (text' : Value.ofText secret = .text secret) :
    loadClient [("APP_ADDRESS", address), ("APP_SECRET", secret)] [] = .ok { address, secret } ∧
      loadClient [("APP_SECRET", secret), ("APP_ADDRESS", address)] [] = .ok { address, secret } := by
  obtain ⟨key, found, place⟩ : ∃ key, keyOfVariable? "APP_ADDRESS" = some key ∧ placeOf key = [.entry "address"] :=
    Option.map_eq_some_iff.mp (by decide +kernel)
  obtain ⟨key', found', place'⟩ : ∃ key, keyOfVariable? "APP_SECRET" = some key ∧ placeOf key = [.entry "secret"] :=
    Option.map_eq_some_iff.mp (by decide +kernel)
  have set (tree : Value) :
      setVariable tree ("APP_ADDRESS", address) = Path.set (.text address) [.entry "address"] tree := by
    simp only [setVariable, found, place, text]
  have set' (tree : Value) :
      setVariable tree ("APP_SECRET", secret) = Path.set (.text secret) [.entry "secret"] tree := by
    simp only [setVariable, found', place', text']
  constructor
  · simp only [loadClient, load, merge, ofVariables, List.foldl_cons, List.foldl_nil, set, set']
    rfl
  · simp only [loadClient, load, merge, ofVariables, List.foldl_cons, List.foldl_nil, set, set']
    rfl

end Settings

namespace Identity

/-- Every address and every secret get to a worker as they were published, in whatever order the two variables are
    read: its settings are accepted, and the secret in them is the one that the server takes. -/
theorem reaches_worker (i : Identity) :
    ∃ first second, Text.lines i.display = [first, second] ∧
      CommandLine.splitEquals first.toList = (addressVariable, some i.address.display) ∧
      CommandLine.splitEquals second.toList = (secretVariable, some i.secret.toBase64) ∧
      ∃ config : ClientConfig,
        Settings.loadClient [("APP_ADDRESS", i.address.display), ("APP_SECRET", i.secret.toBase64)] [] = .ok config ∧
        Settings.loadClient [("APP_SECRET", i.secret.toBase64), ("APP_ADDRESS", i.address.display)] [] = .ok config ∧
        config.validate = .ok () ∧ config.address = i.address.display ∧ config.secret = i.secret.toBase64 ∧
        Secret.parse config.secret = .ok i.secret ∧ i.secret.verify i.secret.toBase64 = true := by
  have colon := i.address.colon_mem_display
  have pad := i.secret.pad_mem_toBase64
  have dense : Text.Inline i.secret.toBase64 := by
    intro c member
    rw [Secret.toBase64, Base64.encode, String.toList_ofList] at member
    have visible := Base64.not_blank_of_mem _ c member
    constructor <;> (rintro rfl; revert visible; decide)
  have names : Text.Inline (addressVariable ++ "=") ∧ Text.Inline (secretVariable ++ "=") := by
    simp [Text.Inline, addressVariable, secretVariable]
  have lines : Text.lines i.display =
      [addressVariable ++ "=" ++ i.address.display, secretVariable ++ "=" ++ i.secret.toBase64] := by
    have pair := Text.lines_pair (names.1.append i.address.inline_display) (names.2.append dense) (by simp)
    rwa [← String.append_assoc, ← String.append_assoc] at pair
  obtain ⟨loaded, loaded'⟩ := Settings.loadClient_pair (Settings.Value.ofText_of_mark (.inl rfl) colon)
    (Settings.Value.ofText_of_mark (.inr rfl) pad)
  refine ⟨_, _, lines, ?_, ?_, _, loaded, loaded', ?_, rfl, rfl, i.secret.parse_toBase64, i.secret.verify_toBase64⟩
  · have plain : '=' ∉ addressVariable.toList := by decide
    simpa using CommandLine.splitEquals_append i.address.display.toList plain
  · have plain : '=' ∉ secretVariable.toList := by decide
    simpa using CommandLine.splitEquals_append i.secret.toBase64.toList plain
  · have visible : Text.isBlankText i.address.display = false :=
      List.all_eq_false.mpr ⟨_, colon, by decide⟩
    have visible' : Text.isBlankText i.secret.toBase64 = false :=
      List.all_eq_false.mpr ⟨_, pad, by decide⟩
    simp [ClientConfig.validate, ClientConfig.rules, Settings.firstBroken, visible, visible']

end Identity
end Lockstep
