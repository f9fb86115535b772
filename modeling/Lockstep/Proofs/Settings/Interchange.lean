import Lockstep.Proofs.Settings.Besides
import Lockstep.Proofs.Settings.Numbers

/-!
# A text as a flag and as a variable

A flag says what its field is; a variable is taken for a truth value or a number
first, and the field converts it back. For ports and policies this comes to the
same. A host can be written in another way then, and a large number of parties is
not always kept (`flag_as_variable`).
-/
namespace Lockstep.CommandLine
open Settings

variable {f g : Flag} {a a' : Arguments} {name text : String} {before after : List (String × String)}

private theorem key_injective (same : f.key = g.key) : f = g := by
  cases f <;> cases g <;> first | rfl | exact absurd same (by decide)

private theorem fieldOfVariable?_key (names : keyOfVariable? name = some f.key) :
    fieldOfVariable? name = some f.key := by
  have place : placeOf f.key = [.entry f.key] := by cases f <;> decide
  rw [fieldOfVariable?, names, Option.bind_some, place]
  rfl

/-- A variable that is the only one of its field. -/
private theorem entry?_sole (names : keyOfVariable? name = some f.key) (unset : settersOf f.key (before ++ after) = [])
    (text : String) :
    Value.entry? (ofVariables (before ++ (name, text) :: after)) f.key = some (.ofText text) := by
  have place : placeOf f.key = [.entry f.key] := by cases f <;> decide
  have sole : settersOf f.key (before ++ (name, text) :: after) = [(name, text)] := by
    simp only [settersOf, List.filter_append, List.append_eq_nil_iff] at unset
    simp only [settersOf, List.filter_append, unset.1, List.nil_append]
    rw [List.filter_cons_of_pos (by simp [fieldOfVariable?_key names]), unset.2]
  have set : ofVariables [(name, text)] = Path.set (.ofText text) [.entry f.key] (.table []) := by
    simp only [ofVariables, List.foldl_cons, List.foldl_nil, setVariable, names, place]
  rw [entry?_ofVariables, sole, set, Path.entry?_set, if_pos rfl]
  rfl

private theorem entry?_other (names : keyOfVariable? name = some f.key) (other : f ≠ g) (text : String) :
    Value.entry? (ofVariables (before ++ (name, text) :: after)) g.key =
      Value.entry? (ofVariables (before ++ after)) g.key := by
  have apart : f.key ≠ g.key := fun same => other (key_injective same)
  have setters : settersOf g.key (before ++ (name, text) :: after) = settersOf g.key (before ++ after) := by
    simp [settersOf, List.filter_append, fieldOfVariable?_key names, apart]
  rw [entry?_ofVariables, setters, ← entry?_ofVariables]

/-- What becomes of settings when the text of a flag stands in its variable instead. -/
def Flag.reread (text : String) (c : ServerConfig) : Flag → ServerConfig
  | .host => { c with host := (Value.ofText text).asText?.getD text }
  | .parties => { c with parties := guessed c.parties }
  | _ => c

/-- The texts that mean the same in both places. -/
def Flag.Kept (text : String) : Flag → Prop
  | .host => (Value.ofText text).asText? = some text
  | .parties => ∀ n, Arguments.number text = .ok n → n < 0x8000000000000000 ∨ 2048 ∣ n ∨ n = Value.maxNatural
  | _ => True

/-- Timeouts are given in other units as flags than as variables. -/
def Flag.InSeconds (f : Flag) : Prop :=
  f = .waitTimeout ∨ f = .handshakeTimeout

/-- A field whose flag is missing is what its variable says. -/
private theorem layered?_variable {tree : Value} (direct : ¬ f.InSeconds) (set : a.set text f = .ok a')
    (absent : a.has f = false) (here : tree.entry? f.key = some (.ofText text)) :
    a.layered? tree = (a'.layered? tree).map (f.reread text) := by
  cases f with
  | waitTimeout => exact absurd (.inl rfl) direct
  | handshakeTimeout => exact absurd (.inr rfl) direct
  | host =>
    cases set
    obtain ⟨shown, read⟩ := asText?_ofText text
    have none : a.host = none := Option.isNone_iff_eq_none.mp (Option.isSome_eq_false_iff.mp absent)
    have field : default? Value.asText? "0.0.0.0" tree "host" = some shown := by
      rw [default?, show tree.entry? "host" = _ from here]
      exact read
    simp only [Arguments.layered?, none, field, Option.none_or, Option.some_or]
    simp [Option.map_bind, Function.comp_def, Flag.reread, read]
  | parties =>
    obtain ⟨n, read, set⟩ := ok_of_bind set
    cases set
    have none : a.parties = none := Option.isNone_iff_eq_none.mp (Option.isSome_eq_false_iff.mp absent)
    have field : need? Value.asNatural? tree "nprocs" = some (guessed n) := by
      rw [need?, show tree.entry? "nprocs" = _ from here]
      exact asNatural?_ofText read
    simp only [Arguments.layered?, none, field, Option.none_or, Option.some_or]
    simp [Option.map_bind, Function.comp_def, Flag.reread]
  | port =>
    obtain ⟨n, read, set⟩ := ok_of_bind set
    cases set
    have none : a.port = none := Option.isNone_iff_eq_none.mp (Option.isSome_eq_false_iff.mp absent)
    have field : default? Value.asPort? 50000 tree "port" = some n := by
      rw [default?, show tree.entry? "port" = _ from here]
      exact asPort?_ofText read
    simp only [Arguments.layered?, none, field, Option.none_or, Option.some_or]
    simp [Option.map_bind, Function.comp_def, Flag.reread]
  | metricsPort =>
    obtain ⟨n, read, set⟩ := ok_of_bind set
    cases set
    have none : a.metricsPort = none := Option.isNone_iff_eq_none.mp (Option.isSome_eq_false_iff.mp absent)
    have field : maybe? Value.asPort? tree "metrics_port" = some (some n) := by
      have read := asPort?_ofText read
      rw [maybe?, show tree.entry? "metrics_port" = _ from here]
      cases value : Value.ofText text with
      | absent => rw [value] at read; cases read
      | _ => simpa [value] using read
    simp only [Arguments.layered?, none, field, Option.none_or, Option.some_or, Option.map_none, Option.map_some]
    simp [Option.map_bind, Function.comp_def, Flag.reread]
  | policy =>
    simp only [Arguments.set] at set
    split at set
    · rename_i p named
      cases set
      have none : a.policy = none := Option.isNone_iff_eq_none.mp (Option.isSome_eq_false_iff.mp absent)
      have field : default? Value.asPolicy? .breakGeneration tree "abandon_policy" = some p := by
        rw [default?, show tree.entry? "abandon_policy" = _ from here]
        exact asPolicy?_ofText named
      simp only [Arguments.layered?, none, field, Option.none_or, Option.some_or]
      simp [Option.map_bind, Function.comp_def, Flag.reread]
    · cases set

/-- The rules do not see the difference. -/
private theorem validate_reread (f : Flag) (text : String) (c : ServerConfig) :
    (f.reread text c).validate = c.validate := by
  cases f with
  | parties =>
    have zero : decide (guessed c.parties = 0) = decide (c.parties = 0) := decide_eq_decide.mpr guessed_eq_zero_iff
    change firstBroken ((decide (guessed c.parties = 0), _) :: _) = _
    rw [zero]
    rfl
  | host | port | waitTimeout | policy | handshakeTimeout | metricsPort => rfl

private theorem settings_eq (fits : a.Fits) (entries : List (String × String)) : settings a entries =
    match a.layered? (ofVariables entries) with
    | none => .error (.load .unsuitable)
    | some c => match c.validate with
      | .error v => .error (.invalid v)
      | .ok () => .ok c := by
  rw [settings, loadServer_overrides fits]
  cases a.layered? (ofVariables entries) <;> rfl

private theorem hold_of_settings {entries : List (String × String)} {c : ServerConfig} (fits : a.Fits)
    (accepted : settings a entries = .ok c) : a.Hold c := by
  rw [settings_eq fits] at accepted
  cases found : a.layered? (ofVariables entries) with
  | none => simp [found] at accepted
  | some c' =>
    simp only [found] at accepted
    split at accepted
    · cases accepted
    · cases accepted
      exact hold_of_layered found

/-- Only for a text that is not kept there is a difference. -/
private theorem reread_eq_iff {c : ServerConfig} (set : a.set text f = .ok a') (hold : a'.Hold c) :
    f.reread text c = c ↔ f.Kept text := by
  cases f with
  | host =>
    cases set
    obtain ⟨shown, read⟩ := asText?_ofText text
    have host : c.host = text := hold.host text rfl
    constructor
    · intro same
      have shownHost : shown = c.host := by simpa [Flag.reread, read] using congrArg ServerConfig.host same
      simp only [Flag.Kept, read, shownHost, host]
    · intro kept
      have kept : (Value.ofText text).asText? = some text := kept
      simp only [Flag.reread, kept, Option.getD_some]
      rw [← host]
  | parties =>
    obtain ⟨n, read, set⟩ := ok_of_bind set
    cases set
    have parties : c.parties = n := hold.parties n rfl
    have fits : n ≤ Value.maxNatural := Arguments.le_of_number read
    have kept : Flag.Kept text .parties ↔ guessed n = n := by
      rw [guessed_eq_iff fits]
      simp [Flag.Kept, read]
    rw [kept]
    constructor
    · intro same
      simpa [Flag.reread, parties] using congrArg ServerConfig.parties same
    · intro same
      have same' : guessed c.parties = c.parties := parties ▸ same
      simp only [Flag.reread, same']
  | port | waitTimeout | policy | handshakeTimeout | metricsPort => simp [Flag.reread, Flag.Kept]

/-- Settings with a text as a flag, and with this text in the variable of the flag. -/
structure Interchange (f : Flag) (text : String) (flagged assigned : Except Failure ServerConfig) : Prop where
  exact : assigned = flagged.map (f.reread text)
  same_iff : assigned = flagged ↔ f.Kept text ∨ ∃ failure, flagged = .error failure

/-- A flag is taken off a command line, and its text is put in a variable that stands anywhere among variables of
    other fields. -/
theorem flag_as_variable {arguments : List String} (direct : ¬ f.InSeconds)
    (parsed : parse (f.spelled text :: arguments) = .ok a') (names : keyOfVariable? name = some f.key)
    (unset : settersOf f.key (before ++ after) = []) :
    ∃ a, parse arguments = .ok a ∧ a.has f = false ∧
      Interchange f text (settings a' (before ++ after)) (settings a (before ++ (name, text) :: after)) := by
  obtain ⟨a, parsed', absent, set⟩ := parse_flag parsed
  have fits := fits_parse parsed
  have exact : settings a (before ++ (name, text) :: after) =
      (settings a' (before ++ after)).map (f.reread text) := by
    have apart : a'.layered? (ofVariables (before ++ (name, text) :: after)) =
        a'.layered? (ofVariables (before ++ after)) := by
      refine layered?_congr fun g missing => entry?_other names ?_ text
      rintro rfl
      rw [Arguments.has_of_set set] at missing
      cases missing
    rw [settings_eq (fits_parse parsed'), settings_eq fits,
      layered?_variable direct set absent (entry?_sole names unset text), apart]
    cases a'.layered? (ofVariables (before ++ after)) with
    | none => rfl
    | some c =>
      simp only [Option.map_some, validate_reread]
      cases c.validate <;> rfl
  refine ⟨a, parsed', absent, exact, ?_⟩
  rw [exact]
  cases flagged : settings a' (before ++ after) with
  | error failure => simp [Except.map]
  | ok c =>
    have kept := reread_eq_iff set (hold_of_settings fits flagged)
    simp [Except.map, kept]

/-- A number of parties with 64 bits, next to a port in another variable. -/
theorem flag_as_variable_large :
    let text := "+9223372036854775809"
    let a : Arguments := { host := some "h" }
    let a' : Arguments := { host := some "h", parties := some 9223372036854775809 }
    parse (Flag.parties.spelled text :: ["--host", "h"]) = .ok a' ∧ parse ["--host", "h"] = .ok a ∧
      Interchange .parties text (settings a' [("APP_PORT", "1")])
        (settings a [("APP_PORT", "1"), ("app_nprocs", text)]) := by
  intro text a a'
  have spelled : Flag.parties.spelled text = "--nprocs=+9223372036854775809" := by decide +kernel
  have parsed : parse (Flag.parties.spelled text :: ["--host", "h"]) = .ok a' := by rw [spelled]; rfl
  have names : keyOfVariable? "app_nprocs" = some Flag.parties.key := by decide +kernel
  have unset : settersOf Flag.parties.key ([("APP_PORT", "1")] ++ []) = [] := by decide +kernel
  have direct : ¬ Flag.parties.InSeconds := by simp [Flag.InSeconds]
  obtain ⟨b, parsed', -, same⟩ := flag_as_variable direct parsed names unset
  have known : parse ["--host", "h"] = .ok a := rfl
  obtain rfl : a = b := Except.ok.inj (known.symm.trans parsed')
  exact ⟨parsed, known, same⟩

/-- A host that reads as a number is another one as a variable. -/
theorem flag_not_as_variable :
    parse (Flag.host.spelled "127.10" :: ["--nprocs", "2"]) = .ok { host := some "127.10", parties := some 2 } ∧
      parse ["--nprocs", "2"] = .ok { parties := some 2 } ∧
      keyOfVariable? "APP_HOST" = some Flag.host.key ∧
      (settings { host := some "127.10", parties := some 2 } []).toOption = some { host := "127.10", parties := 2 } ∧
      (settings { parties := some 2 } [("APP_HOST", "127.10")]).toOption = some { host := "127.1", parties := 2 } ∧
      settings { parties := some 2 } [("APP_HOST", "127.10")] ≠
        settings { host := some "127.10", parties := some 2 } [] := by
  have flagged : (settings { host := some "127.10", parties := some 2 } []).toOption =
      some { host := "127.10", parties := 2 } := by decide +kernel
  have assigned : (settings { parties := some 2 } [("APP_HOST", "127.10")]).toOption =
      some { host := "127.1", parties := 2 } := by decide +kernel
  refine ⟨rfl, rfl, by decide +kernel, flagged, assigned, ?_⟩
  intro same
  rw [same, flagged] at assigned
  exact absurd assigned (by decide)

end Lockstep.CommandLine
