import Lockstep.Settings.Value

namespace Lockstep

variable {c : Char} {s : List Char}

private theorem Text.mem_lowerAfter (same : lowerChar c = c) (plain : c ≠ 'Σ' ∧ c ≠ 'İ') (before done : List Char)
    (member : c ∈ done ∨ c ∈ s) : c ∈ lowerAfter before done s := by
  induction s generalizing before done with
  | nil => simpa [lowerAfter] using member
  | cons d s ih =>
    refine ih _ _ ?_
    rcases member with done | here
    · exact .inl (List.mem_append_right _ done)
    · rcases List.mem_cons.mp here with rfl | later
      · simp [plain, same]
      · exact .inr later

/-- A character that is its own lower case, wherever it stands, is not lost. -/
theorem Text.mem_lower (same : lowerChar c = c) (plain : c ≠ 'Σ' ∧ c ≠ 'İ') {s : String} (member : c ∈ s.toList) :
    c ∈ (lower s).toList := by
  rw [lower, String.toList_ofList]
  exact mem_lowerAfter same plain [] [] (.inr member)

/-- A character that stands in no truth value and no number. -/
def Mark (c : Char) : Prop :=
  c = ':' ∨ c = '='

namespace Mark

private theorem spec (mark : Mark c) : isDecimalDigit c = false ∧ c ≠ '-' ∧ c ≠ '+' ∧ c ≠ '.' ∧ c ≠ 'e' ∧ c ≠ 'E' ∧
    c.toLower = c := by
  rcases mark with rfl | rfl <;> decide

private theorem lowerChar_eq (mark : Mark c) : Text.lowerChar c = c := by
  rcases mark with rfl | rfl <;> decide +kernel

private theorem mem_lower (mark : Mark c) {s : String} (member : c ∈ s.toList) : c ∈ (Text.lower s).toList :=
  Text.mem_lower mark.lowerChar_eq (by rcases mark with rfl | rfl <;> decide) member

private theorem mem_splitSign (mark : Mark c) (member : c ∈ s) : c ∈ (splitSign s).2 := by
  obtain ⟨_, minus, plus, _⟩ := mark.spec
  unfold splitSign
  split
  · simpa [minus] using member
  · simpa [plus] using member
  · exact member

private theorem not_all_digits (mark : Mark c) (member : c ∈ s) : s.all isDecimalDigit = false :=
  List.all_eq_false.mpr ⟨c, member, by simp [mark.spec.1]⟩

private theorem integerText?_eq (mark : Mark c) {s : String} (member : c ∈ s.toList) : integerText? s = none := by
  simp [integerText?, mark.not_all_digits (mark.mem_splitSign member)]

private theorem exponent?_eq (mark : Mark c) (member : c ∈ s) : Binary64.exponent? s = none := by
  simp [Binary64.exponent?, mark.not_all_digits (mark.mem_splitSign member)]

/-- The digits at the start of a text leave the mark behind them. -/
private theorem mem_dropWhile (mark : Mark c) (member : c ∈ s) : c ∈ s.dropWhile isDecimalDigit := by
  rw [← List.takeWhile_append_dropWhile (p := isDecimalDigit) (l := s), List.mem_append] at member
  rcases member with digit | rest
  · have : isDecimalDigit c = true := List.all_eq_true.mp List.all_takeWhile c digit
    rw [mark.spec.1] at this
    cases this
  · exact rest

/-- So does a fraction. -/
private theorem mem_of_fraction (mark : Mark c) (member : c ∈ s) {rest : List Char}
    (found : (match s with
      | '.' :: rest => (rest.takeWhile isDecimalDigit, rest.dropWhile isDecimalDigit)
      | _ => ([], s)).2 = rest) : c ∈ rest := by
  obtain ⟨_, _, _, point, _⟩ := mark.spec
  split at found
  · rw [← found]
    exact mark.mem_dropWhile ((List.mem_cons.mp member).resolve_left point)
  · rw [← found]
    exact member

private theorem decimal?_eq (mark : Mark c) (negative : Bool) (member : c ∈ s) :
    Binary64.decimal? negative s = none := by
  obtain ⟨_, _, _, _, small, capital, _⟩ := mark.spec
  simp only [Binary64.decimal?]
  -- behind the digits there is something, and it is no exponent
  split
  · rename_i found
    exact absurd (mark.mem_of_fraction (mark.mem_dropWhile member) found) List.not_mem_nil
  · rename_i found
    have behind := mark.mem_of_fraction (mark.mem_dropWhile member) found
    split
    · rename_i letter
      have other := (List.mem_cons.mp behind).resolve_left (by rintro rfl; exact letter.elim small capital)
      rw [mark.exponent?_eq other]
      rfl
    · rfl

private theorem parse?_eq (mark : Mark c) {s : String} (member : c ∈ s.toList) : Binary64.parse? s = none := by
  have rest := mark.mem_splitSign member
  have word : c ∈ Binary64.lowerAscii (splitSign s.toList).2 :=
    List.mem_map.mpr ⟨c, rest, mark.spec.2.2.2.2.2.2⟩
  have other : ∀ w : String, c ∉ w.toList → String.ofList (Binary64.lowerAscii (splitSign s.toList).2) ≠ w := by
    rintro w absent rfl
    exact absent (by simpa using word)
  have inf : c ∉ "inf".toList ∧ c ∉ "infinity".toList ∧ c ∉ "nan".toList := by
    rcases mark with rfl | rfl <;> decide
  simp only [Binary64.parse?, other _ inf.1, other _ inf.2.1, other _ inf.2.2, or_self, if_false,
    mark.decimal?_eq _ rest]

end Mark

namespace Settings

/-- A text that holds a colon or an equals sign is taken as it stands. -/
theorem Value.ofText_of_mark (mark : Mark c) {s : String} (member : c ∈ s.toList) : ofText s = .text s := by
  have other : ∀ w : String, c ∉ w.toList → Text.lower s ≠ w := by
    rintro w absent rfl
    exact absent (mark.mem_lower member)
  have truth : c ∉ "true".toList ∧ c ∉ "false".toList := by rcases mark with rfl | rfl <;> decide
  simp only [ofText, other _ truth.1, other _ truth.2, if_false, mark.integerText?_eq member, mark.parse?_eq member]

end Settings
end Lockstep
