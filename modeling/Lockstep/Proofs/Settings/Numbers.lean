import Lockstep.Proofs.Settings.Flags
import Lockstep.Proofs.Settings.Texts
import Mathlib.Data.List.TakeWhile
import Mathlib.Tactic.SplitIfs

namespace Lockstep

private theorem mem_of_isDecimalDigit {c : Char} (digit : isDecimalDigit c = true) : c ∈ "0123456789".toList := by
  simp only [isDecimalDigit, Bool.and_eq_true, decide_eq_true_eq, Char.le_def, UInt32.le_iff_toNat_le] at digit
  obtain ⟨low, high⟩ := digit
  have low : 48 ≤ c.toNat := low
  have high : c.toNat ≤ 57 := high
  obtain ⟨n, small, code⟩ : ∃ n < 10, c.toNat = 48 + n := ⟨c.toNat - 48, by omega, by omega⟩
  have each : ∀ n < 10, Char.ofNat (48 + n) ∈ "0123456789".toList := by decide
  rw [← c.ofNat_toNat, code]
  exact each n small

/-- Digits have no other case. -/
private theorem digit_spec {c : Char} (digit : isDecimalDigit c = true) :
    Text.lowerChar c = c ∧ c.toLower = c ∧ c ≠ 'Σ' ∧ c ≠ 'İ' := by
  have each : "0123456789".toList.all
      (fun c => Text.lowerChar c = c ∧ c.toLower = c ∧ c ≠ 'Σ' ∧ c ≠ 'İ') = true := by
    decide +kernel
  exact of_decide_eq_true (List.all_eq_true.mp each c (mem_of_isDecimalDigit digit))

private theorem mem_of_mem_splitSign {c : Char} {s : List Char} (member : c ∈ (splitSign s).2) : c ∈ s := by
  unfold splitSign at member
  split at member
  · exact List.mem_cons_of_mem _ member
  · exact List.mem_cons_of_mem _ member
  · exact member

/-- Digits behind a sign or alone. -/
structure Signed (s : String) (negative : Bool) (digits : List Char) : Prop where
  split : splitSign s.toList = (negative, digits)
  some : digits ≠ []
  each : ∀ c ∈ digits, isDecimalDigit c = true

namespace Signed

variable {s : String} {negative : Bool} {digits : List Char} {n : Nat}

private theorem all (signed : Signed s negative digits) : digits.all isDecimalDigit = true :=
  List.all_eq_true.mpr signed.each

private theorem of_naturalText? {limit : Nat} (read : naturalText? limit s = .some n) :
    ∃ digits, Signed s false digits ∧ n = decimalValue digits ∧ n ≤ limit := by
  cases split : splitSign s.toList with | mk negative digits
  simp only [naturalText?, split] at read
  split_ifs at read with broken small
  cases read
  rw [not_or, not_or, List.isEmpty_iff, Bool.not_eq_true', Bool.not_eq_false, List.all_eq_true] at broken
  obtain ⟨positive, some, each⟩ := broken
  obtain rfl : negative = false := Bool.not_eq_true _ ▸ positive
  exact ⟨digits, ⟨split, some, each⟩, rfl, small⟩

private theorem of_integerText? {k : Int} (read : integerText? s = .some k) :
    ∃ negative digits, Signed s negative digits := by
  cases split : splitSign s.toList with | mk negative digits
  simp only [integerText?, split] at read
  split at read
  · cases read
  · rename_i broken
    rw [not_or, List.isEmpty_iff, Bool.not_eq_true', Bool.not_eq_false, List.all_eq_true] at broken
    exact ⟨negative, digits, ⟨split, broken.1, broken.2⟩⟩

/-- There is a digit in the text, so it is none of the words. -/
private theorem lower_ne (signed : Signed s negative digits) (word : String)
    (plain : word.toList.any isDecimalDigit = false) : Text.lower s ≠ word := by
  rintro rfl
  obtain ⟨c, here⟩ := List.exists_mem_of_ne_nil _ signed.some
  have digit := signed.each c here
  obtain ⟨same, -, noSigma, noDot⟩ := digit_spec digit
  have there : c ∈ s.toList := mem_of_mem_splitSign (by rw [signed.split]; exact here)
  exact List.any_eq_false.mp plain c (Text.mem_lower same ⟨noSigma, noDot⟩ there) digit

private theorem ofText_eq (signed : Signed s negative digits) : Settings.Value.ofText s =
    match integerText? s with
    | .some k => .integer k
    | none => match Binary64.parse? s with
      | .some x => .float x
      | none => .text s :=
  (if_neg (signed.lower_ne "true" (by decide))).trans (if_neg (signed.lower_ne "false" (by decide)))

private theorem integerText?_eq (signed : Signed s false digits) :
    integerText? s = if decimalValue digits < 0x8000000000000000 then .some (decimalValue digits : Int) else none := by
  simp [integerText?, signed.split, signed.some, signed.all]

private theorem parse?_eq (signed : Signed s negative digits) : Binary64.parse? s =
    .some (Binary64.ofDecimal negative (decimalValue digits) digits.length 0) := by
  have word (w : String) (plain : w.toList.any isDecimalDigit = false) :
      String.ofList (Binary64.lowerAscii digits) ≠ w := by
    rintro rfl
    obtain ⟨c, here⟩ := List.exists_mem_of_ne_nil _ signed.some
    have digit := signed.each c here
    have there : c ∈ Binary64.lowerAscii digits := List.mem_map.mpr ⟨c, here, (digit_spec digit).2.1⟩
    exact List.any_eq_false.mp plain c (by simpa using there) digit
  have alone : Binary64.decimal? negative digits =
      .some (Binary64.ofDecimal negative (decimalValue digits) digits.length 0) := by
    have whole : digits.takeWhile isDecimalDigit = digits := List.takeWhile_eq_self_iff.mpr signed.each
    have rest : digits.dropWhile isDecimalDigit = [] := List.dropWhile_eq_nil_iff.mpr signed.each
    simp [Binary64.decimal?, whole, rest, signed.some]
  simp only [Binary64.parse?, signed.split, word "inf" (by decide), word "infinity" (by decide),
    word "nan" (by decide), or_self, if_false, alone]

end Signed

namespace Binary64

/-- The nearest multiple of 2048, the even one of two; what is above the numbers of 64 bits is the largest of them. -/
def nearest (n : Nat) : Nat :=
  min Settings.Value.maxNatural (2048 * roundDiv n 2048)

variable {n : Nat}

private theorem exponentFor_eq (large : 0x8000000000000000 ≤ n) (small : n ≤ Settings.Value.maxNatural) :
    exponentFor n 1 = 11 := by
  simp only [Settings.Value.maxNatural] at small
  have log : Nat.log2 n = 63 := (Nat.log2_eq_iff (by omega)).mpr ⟨by omega, by omega⟩
  have count : bits n = 64 := by rw [bits, if_neg (by omega), log]
  have guess : max (-1074) ((bits n : Int) - bits 1 - 53) = 10 := by
    rw [count, show bits 1 = 1 from rfl]
    decide
  simp only [exponentFor, guess]
  -- with ten binary places taken off the mantissa has one bit too many
  have many : ¬ n / 1024 < mantissaLimit := by
    unfold mantissaLimit
    omega
  simp [scaled, many]

private theorem roundedMagnitude_ofRatio (large : 0x8000000000000000 ≤ n) (small : n ≤ Settings.Value.maxNatural) :
    (ofRatio false n 1).roundedMagnitude Settings.Value.maxNatural = nearest n := by
  have positive : n ≠ 0 := by omega
  have quotient : scaled n 1 (-exponentFor n 1) = (n, 2048) := by
    rw [exponentFor_eq large small]
    rfl
  simp only [ofRatio, positive, if_false, quotient]
  rw [exponentFor_eq large small]
  by_cases carry : roundDiv n 2048 = mantissaLimit
  · -- the mantissa is rounded up to the next power of two, and the number out of range
    have beyond : nearest n = Settings.Value.maxNatural := by
      rw [nearest, carry]
      rfl
    rw [if_pos carry, beyond]
    decide
  · have value : scaled (roundDiv n 2048) 1 11 = (roundDiv n 2048 * 2048, 1) := rfl
    rw [if_neg carry]
    simp only [show ¬ (971 : Int) < 11 by decide, if_false, roundedMagnitude, value, nearest]
    congr 1
    omega

private theorem nearest_eq_iff (large : 0x8000000000000000 ≤ n) (small : n ≤ Settings.Value.maxNatural) :
    nearest n = n ↔ 2048 ∣ n ∨ n = Settings.Value.maxNatural := by
  simp only [Settings.Value.maxNatural] at small
  unfold nearest roundDiv Settings.Value.maxNatural
  constructor
  · intro same
    by_cases whole : 2048 ∣ n
    · exact .inl whole
    · refine .inr ?_
      omega
  · rintro (⟨q, rfl⟩ | rfl)
    · simp
      omega
    · decide

private theorem isNegative_ofRatio (negative : Bool) (num den : Nat) :
    (ofRatio negative num den).isNegative = negative := by
  have each (m : Nat) (e : Int) :
      (if 971 < e then infinite negative else finite negative m e).isNegative = negative := by
    split <;> rfl
  unfold ofRatio
  split
  · rfl
  · exact each _ _

private theorem ofDecimal_eq (positive : n ≠ 0) (places : Nat) : ofDecimal false n places 0 = ofRatio false n 1 := by
  rw [ofDecimal, if_neg positive, if_neg (by decide), if_neg (by omega), if_pos (by decide)]
  simp

end Binary64

namespace CommandLine

open Settings (Value)

variable {s : String} {n : Nat}

/-- What becomes of a number of 64 bits as the text of a variable. -/
def guessed (n : Nat) : Nat :=
  if n < 0x8000000000000000 then n else Binary64.nearest n

theorem guessed_eq_iff (fits : n ≤ Value.maxNatural) :
    guessed n = n ↔ n < 0x8000000000000000 ∨ 2048 ∣ n ∨ n = Value.maxNatural := by
  unfold guessed
  by_cases small : n < 0x8000000000000000
  · simp [small]
  · rw [if_neg small, Binary64.nearest_eq_iff (by omega) fits]
    simp [small]

theorem guessed_eq_zero_iff : guessed n = 0 ↔ n = 0 := by
  unfold guessed
  by_cases small : n < 0x8000000000000000
  · rw [if_pos small]
  · have positive : 0 < Binary64.roundDiv n 2048 := by
      unfold Binary64.roundDiv
      dsimp only
      split_ifs <;> omega
    rw [if_neg small]
    unfold Binary64.nearest Value.maxNatural
    omega

theorem asNatural?_ofText (read : Arguments.number s = .ok n) : (Value.ofText s).asNatural? = some (guessed n) := by
  obtain ⟨digits, signed, rfl, fits⟩ : ∃ digits, Signed s false digits ∧ n = decimalValue digits ∧
      n ≤ Value.maxNatural := by
    unfold Arguments.number at read
    split at read
    · rename_i found
      cases read
      exact Signed.of_naturalText? found
    · cases read
  rw [signed.ofText_eq, signed.integerText?_eq, signed.parse?_eq, guessed]
  by_cases small : decimalValue digits < 0x8000000000000000
  · rw [if_pos small, if_pos small]
    simp [Value.asNatural?, fits]
  · have magnitude := Binary64.roundedMagnitude_ofRatio (Nat.le_of_not_lt small) fits
    rw [if_neg small, if_neg small, Binary64.ofDecimal_eq (by omega)]
    simp [Value.asNatural?, Binary64.isNegative_ofRatio, magnitude]

theorem asPort?_ofText (read : Arguments.portNumber s = .ok n) : (Value.ofText s).asPort? = some n := by
  unfold Arguments.portNumber at read
  split at read
  · rename_i k found
    split at read
    · rename_i inside
      cases read
      obtain ⟨negative, digits, signed⟩ := Signed.of_integerText? found
      obtain ⟨m, rfl⟩ := Int.eq_ofNat_of_zero_le inside.1
      rw [signed.ofText_eq, found]
      exact asPort?_integer (by omega)
    · cases read
  · cases read

theorem asPolicy?_ofText {p : AbandonPolicy} (named : AbandonPolicy.ofName? s = some p) :
    (Value.ofText s).asPolicy? = some p := by
  unfold AbandonPolicy.ofName? at named
  split_ifs at named with first second
  · cases named
    rw [first]
    decide +kernel
  · cases named
    rw [second]
    decide +kernel

/-- Whatever a variable holds, the field of a text gets some text. -/
theorem asText?_ofText (s : String) : ∃ text, (Value.ofText s).asText? = some text := by
  simp only [Value.ofText]
  split_ifs
  · exact ⟨_, rfl⟩
  · exact ⟨_, rfl⟩
  · split
    · exact ⟨_, rfl⟩
    · split
      · exact ⟨_, rfl⟩
      · exact ⟨_, rfl⟩

end CommandLine
end Lockstep
