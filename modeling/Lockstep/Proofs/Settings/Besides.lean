import Lockstep.Proofs.Settings.Flags
import Lockstep.Proofs.Settings.Identity

namespace Lockstep.CommandLine

variable {f g : Flag} {a a' b b' own own' : Arguments} {text value : String}

namespace Arguments

/-- Takes the value of one flag over. -/
def adopt (a own : Arguments) : Flag → Arguments
  | .host => { a with host := own.host }
  | .port => { a with port := own.port }
  | .parties => { a with parties := own.parties }
  | .waitTimeout => { a with waitTimeout := own.waitTimeout }
  | .policy => { a with policy := own.policy }
  | .handshakeTimeout => { a with handshakeTimeout := own.handshakeTimeout }
  | .metricsPort => { a with metricsPort := own.metricsPort }

private theorem adopt_comm (other : f ≠ g) (a own own' : Arguments) :
    (a.adopt own f).adopt own' g = (a.adopt own' g).adopt own f := by
  cases f <;> cases g <;> first | rfl | exact absurd rfl other

@[simp] theorem has_adopt_self (a own : Arguments) (f : Flag) : (a.adopt own f).has f = own.has f := by
  cases f <;> rfl

private theorem has_adopt_of_ne (other : f ≠ g) (a own : Arguments) : (a.adopt own f).has g = a.has g := by
  cases f <;> cases g <;> first | rfl | exact absurd rfl other

/-- Whether a flag takes a value, and what it makes of it, is a matter of this flag alone. -/
private theorem set_eq (a : Arguments) (value : String) (f : Flag) :
    a.set value f = (({} : Arguments).set value f).map (a.adopt · f) := by
  cases f with
  | host => rfl
  | port | metricsPort =>
    simp only [set]
    cases portNumber value <;> rfl
  | parties | waitTimeout | handshakeTimeout =>
    simp only [set]
    cases number value <;> rfl
  | policy =>
    simp only [set]
    cases AbandonPolicy.ofName? value <;> rfl

private theorem adopt_of_set (set : a.set value f = .ok a') :
    ∃ own, ({} : Arguments).set value f = .ok own ∧ a' = a.adopt own f := by
  rw [set_eq] at set
  cases own : ({} : Arguments).set value f with
  | error e => rw [own] at set; cases set
  | ok own' =>
    rw [own] at set
    cases set
    exact ⟨own', rfl, rfl⟩

private theorem set_of_own (taken : ({} : Arguments).set value f = .ok own) (a : Arguments) :
    a.set value f = .ok (a.adopt own f) := by
  rw [set_eq, taken]
  rfl

theorem has_of_set (set : a.set value f = .ok a') : a'.has f = true := by
  cases f with
  | host =>
    cases set
    rfl
  | port | metricsPort | parties | waitTimeout | handshakeTimeout =>
    obtain ⟨n, -, set⟩ := ok_of_bind set
    cases set
    rfl
  | policy =>
    simp only [Arguments.set] at set
    split at set <;> cases set
    rfl

end Arguments

namespace Parser

/-- Two parsers at the same place of a command line, the second of which has taken in one flag more. -/
structure Besides (f : Flag) (own : Arguments) (p p' : Parser) : Prop where
  absent : p.arguments.has f = false
  adopted : p'.arguments = p.arguments.adopt own f
  pending : p'.pending = p.pending
  trailing : p'.trailing = p.trailing

namespace Besides

variable {p p' q q' : Parser} {argument : String}

/-- The flag that one has more does not come again; another one both take in. -/
private theorem resolve (besides : Besides f own p p') (given : own.has f = true) (resolved : p'.resolve = .ok q') :
    ∃ q, p.resolve = .ok q ∧ Besides f own q q' := by
  unfold Parser.resolve at resolved ⊢
  rw [besides.pending] at resolved
  split at resolved
  · cases resolved
    exact ⟨p, rfl, besides⟩
  · cases resolved
  · rename_i g value waiting
    rw [besides.adopted] at resolved
    by_cases same : f = g
    · subst same
      rw [Arguments.has_adopt_self, given, if_pos rfl] at resolved
      cases resolved
    · rw [Arguments.has_adopt_of_ne same] at resolved
      split at resolved
      · cases resolved
      · rename_i fresh
        obtain ⟨a', set, there⟩ := ok_of_bind resolved
        cases there
        obtain ⟨own', taken, rfl⟩ := Arguments.adopt_of_set set
        rw [if_neg fresh, Arguments.set_of_own taken]
        refine ⟨_, rfl, ?_, ?_, rfl, besides.trailing⟩
        · exact (Arguments.has_adopt_of_ne (Ne.symm same) ..).trans besides.absent
        · exact Arguments.adopt_comm same ..

variable (given : own.has f = true)
include given

private theorem takeFlag (besides : Besides f own p p') {value : Option String} (taken : p'.takeFlag g value = .ok q') :
    ∃ q, p.takeFlag g value = .ok q ∧ Besides f own q q' := by
  obtain ⟨r', resolved, taken⟩ := ok_of_bind taken
  obtain ⟨r, resolved, besides⟩ := besides.resolve given resolved
  have next : Besides f own { r with pending := some (g, value) } { r' with pending := some (g, value) } :=
    ⟨besides.absent, besides.adopted, rfl, besides.trailing⟩
  simp only [Parser.takeFlag, resolved, bind, Except.bind]
  split at taken
  · rename_i whole
    rw [if_pos whole]
    exact next.resolve given taken
  · rename_i half
    cases taken
    rw [if_neg half]
    exact ⟨_, rfl, next⟩

private theorem takeLong (besides : Besides f own p p') {name : String} {value : Option String}
    (taken : p'.takeLong name value = .ok q') : ∃ q, p.takeLong name value = .ok q ∧ Besides f own q q' := by
  unfold Parser.takeLong at taken ⊢
  split at taken
  · exact besides.takeFlag given taken
  · split at taken
    · split at taken
      · cases taken
      · exact absurd taken (finishWith_ne_ok _)
    · cases taken

private theorem takeShort (besides : Besides f own p p') {letters : List Char} (taken : p'.takeShort letters = .ok q') :
    ∃ q, p.takeShort letters = .ok q ∧ Besides f own q q' := by
  unfold Parser.takeShort at taken ⊢
  split at taken
  · cases taken
    exact ⟨p, rfl, besides⟩
  · split at taken
    · exact besides.takeFlag given taken
    · exact besides.takeFlag given taken
    · exact besides.takeFlag given taken
  · exact absurd taken (finishWith_ne_ok _)
  · exact absurd taken (finishWith_ne_ok _)
  · cases taken

omit given in
private theorem takePlain (besides : Besides f own p p') (taken : p'.takePlain argument = .ok q') :
    ∃ q, p.takePlain argument = .ok q ∧ Besides f own q q' := by
  unfold Parser.takePlain at taken ⊢
  rw [besides.trailing, besides.pending] at taken
  split at taken
  · cases taken
    exact ⟨_, rfl, besides.absent, besides.adopted, rfl, rfl⟩
  · cases taken

private theorem take (besides : Besides f own p p') (taken : p'.take argument = .ok q') :
    ∃ q, p.take argument = .ok q ∧ Besides f own q q' := by
  unfold Parser.take at taken ⊢
  rw [besides.trailing] at taken
  by_cases ended : p.trailing = true
  · rw [if_pos ended] at taken ⊢
    exact besides.takePlain taken
  · rw [if_neg ended] at taken ⊢
    split at taken
    · cases taken
      exact ⟨_, rfl, besides.absent, besides.adopted, besides.pending, rfl⟩
    · exact besides.takeLong given taken
    · exact besides.takeShort given taken
    · exact besides.takePlain taken

private theorem takeAll {arguments : List String} (besides : Besides f own p p')
    (taken : arguments.foldlM Parser.take p' = .ok q') :
    ∃ q, arguments.foldlM Parser.take p = .ok q ∧ Besides f own q q' := by
  induction arguments generalizing p p' with
  | nil =>
    cases taken
    exact ⟨p, rfl, besides⟩
  | cons argument arguments ih =>
    rw [List.foldlM_cons] at taken ⊢
    obtain ⟨r', first, rest⟩ := ok_of_bind taken
    obtain ⟨r, first, besides⟩ := besides.take given first
    rw [first]
    exact ih besides rest

end Besides
end Parser

/-- A flag with its value, as one argument. -/
def Flag.spelled (f : Flag) (text : String) : String :=
  "--" ++ f.name ++ "=" ++ text

private theorem dashed_spelled (f : Flag) (text : String) : dashed (f.spelled text) = .long f.name (some text) := by
  have characters : (f.spelled text).toList = '-' :: '-' :: (f.name.toList ++ '=' :: text.toList) := by
    simp [Flag.spelled]
  have plain : '=' ∉ f.name.toList := by cases f <;> decide
  have read := splitEquals_append text.toList plain
  obtain ⟨c, rest, more⟩ : ∃ c rest, f.name.toList ++ '=' :: text.toList = c :: rest :=
    List.exists_cons_of_ne_nil (by simp)
  rw [more] at read characters
  simp [dashed, characters, read]

private theorem take_spelled (f : Flag) (text : String) :
    Parser.take {} (f.spelled text) = (({} : Arguments).set text f).map fun own => { arguments := own } := by
  have found : Flag.all.find? (·.name = f.name) = some f := by cases f <;> decide
  have fresh : ({} : Arguments).has f = false := by cases f <;> rfl
  simp only [Parser.take, dashed_spelled, Parser.takeLong, found, Parser.takeFlag, Parser.resolve, bind, Except.bind,
    fresh]
  cases ({} : Arguments).set text f <;> rfl

/-- A flag in front of a command line is taken as if it stood alone, and the others as if it were not there. -/
theorem parse_flag {arguments : List String} (parsed : parse (f.spelled text :: arguments) = .ok a') :
    ∃ a, parse arguments = .ok a ∧ a.has f = false ∧ a.set text f = .ok a' := by
  obtain ⟨p', taken, parsed⟩ := ok_of_bind parsed
  obtain ⟨q', resolved, parsed⟩ := ok_of_bind parsed
  cases parsed
  rw [List.foldlM_cons, take_spelled] at taken
  obtain ⟨r', first, rest⟩ := ok_of_bind taken
  cases own : ({} : Arguments).set text f with
  | error e => rw [own] at first; cases first
  | ok own' =>
    rw [own] at first
    cases first
    have given := Arguments.has_of_set own
    have start : Parser.Besides f own' {} { arguments := own' } := by
      refine ⟨by cases f <;> rfl, ?_, rfl, rfl⟩
      obtain ⟨own'', again, same⟩ := Arguments.adopt_of_set own
      rw [own] at again
      cases again
      exact same
    obtain ⟨p, taken, besides⟩ := start.takeAll given rest
    obtain ⟨q, resolved, besides⟩ := besides.resolve given resolved
    refine ⟨q.arguments, ?_, besides.absent, ?_⟩
    · rw [parse, taken]
      simp only [bind, Except.bind, resolved]
      rfl
    · rw [Arguments.set_of_own own, besides.adopted]

end Lockstep.CommandLine
