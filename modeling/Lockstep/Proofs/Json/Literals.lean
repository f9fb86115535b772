import Lockstep.Json.Printer
import Mathlib.Data.List.TakeWhile

namespace Lockstep

section
variable {α β : Type} {f : α → List β}

theorem length_flatMap_le {k : Nat} (short : ∀ a, (f a).length ≤ k) (as : List α) :
    (as.flatMap f).length ≤ k * as.length := by
  induction as with
  | nil => exact Nat.le_refl _
  | cons a as ih =>
    have here := short a
    rw [List.flatMap_cons, List.length_append, List.length_cons, Nat.mul_succ]
    omega

theorem length_le_flatMap (some_each : ∀ a, 0 < (f a).length) (as : List α) : as.length ≤ (as.flatMap f).length := by
  induction as with
  | nil => exact Nat.le_refl _
  | cons a as ih =>
    have here := some_each a
    rw [List.flatMap_cons, List.length_append, List.length_cons]
    omega

end

namespace Text

@[simp] theorem bytes_append (a b : String) : bytes (a ++ b) = bytes a ++ bytes b := by
  simp [bytes, String.toByteArray_append]

theorem bytes_ofList (cs : List Char) : bytes (String.ofList cs) = cs.flatMap String.utf8EncodeChar := by
  simp [bytes, List.utf8Encode]

theorem utf8_of_large {c : Char} (large : 128 ≤ c.toNat) : ∀ b ∈ String.utf8EncodeChar c, 128 ≤ b.toNat := by
  have not_small : ¬ c.val.toNat ≤ 127 := Nat.not_le.mpr large
  have tail : ∀ n, 128 ≤ (UInt8.ofNat (n % 64 + 128)).toNat := by
    intro n
    rw [UInt8.toNat_ofNat']
    omega
  intro b member
  simp only [String.utf8EncodeChar, not_small, if_false] at member
  split at member
  · simp only [List.mem_cons, List.not_mem_nil, or_false] at member
    rcases member with rfl | rfl
    · rw [UInt8.toNat_ofNat']
      omega
    · exact tail _
  · split at member
    · simp only [List.mem_cons, List.not_mem_nil, or_false] at member
      rcases member with rfl | rfl | rfl
      · rw [UInt8.toNat_ofNat']
        omega
      · exact tail _
      · exact tail _
    · simp only [List.mem_cons, List.not_mem_nil, or_false] at member
      rcases member with rfl | rfl | rfl | rfl
      · rw [UInt8.toNat_ofNat']
        omega
      · exact tail _
      · exact tail _
      · exact tail _

end Text

namespace Json

/-- The bytes that a character is written as between quotes. -/
def escapedChar (c : Char) : Bytes :=
  (Print.escapeChar c).flatMap String.utf8EncodeChar

/-- What stands between the quotes of a text. -/
def escaped (s : String) : Bytes :=
  s.toList.flatMap escapedChar

theorem bytes_text (s : String) : Text.bytes (Print.text s) = 34 :: (escaped s ++ [34]) := by
  have quote : String.utf8EncodeChar '"' = [34] := by decide
  rw [Print.text, Text.bytes_ofList, List.flatMap_append, List.flatMap_cons, List.flatMap_singleton, List.flatMap_assoc,
    quote]
  rfl

theorem escapedChar_of_large {c : Char} (large : 128 ≤ c.toNat) : escapedChar c = String.utf8EncodeChar c := by
  have ne : ∀ d : Char, d.toNat < 128 → c ≠ d := by
    rintro d small rfl
    omega
  have plain : Print.escapeChar c = [c] := by
    simp [Print.escapeChar, ne '"' (by decide), ne '\\' (by decide), ne '\x08' (by decide), ne '\x0c' (by decide),
      ne '\n' (by decide), ne '\r' (by decide), ne '\t' (by decide), show ¬ c.toNat < 32 by omega]
  simp [escapedChar, plain]

/-- What holds of all characters of one byte and of all others holds of every character. -/
theorem forall_char {p : Char → Prop} (small : ∀ n : Fin 128, p (Char.ofNat n)) (large : ∀ c : Char, 128 ≤ c.toNat → p c)
    (c : Char) : p c := by
  by_cases ascii : c.toNat < 128
  · have same : Char.ofNat c.toNat = c := c.ofNat_toNat
    rw [← same]
    exact small ⟨c.toNat, ascii⟩
  · exact large c (Nat.le_of_not_lt ascii)

theorem ne_of_high {b d : UInt8} (high : 128 ≤ b.toNat) (small : d.toNat < 128) : b ≠ d := by
  rintro rfl
  omega

/-- Within quotes a byte goes as the escapes go, and is kept. -/
theorem scan_escape {b : UInt8} {e e' : Escape} (tokens : List Token) (read : Bytes) (goes : e.next? b = some e') :
    Scanner.next? ⟨tokens, .quoted e read⟩ b = some ⟨tokens, .quoted e' (b :: read)⟩ := by
  have stays : ¬(e = .plain ∧ b = 34) := by
    rintro ⟨rfl, rfl⟩
    simp [Escape.next?] at goes
  simp [Scanner.next?, stays, goes]

private theorem scan_escapes {bs : Bytes} {e e' : Escape} (tokens : List Token) (read : Bytes)
    (goes : bs.foldlM Escape.next? e = some e') :
    bs.foldlM Scanner.next? ⟨tokens, .quoted e read⟩ = some ⟨tokens, .quoted e' (bs.reverse ++ read)⟩ := by
  induction bs generalizing e read with
  | nil =>
    cases goes
    rfl
  | cons b bs ih =>
    rw [List.foldlM_cons] at goes
    cases next : e.next? b with
    | none => simp [next] at goes
    | some e'' =>
      rw [next] at goes
      rw [List.foldlM_cons, scan_escape tokens read next]
      simpa using ih (b :: read) goes

/-- What goes from quote to quote is one token, whatever follows. -/
theorem scan_quoted {body : Bytes} (goes : body.foldlM Escape.next? .plain = some .plain) (tokens : List Token)
    (rest : Bytes) : (34 :: (body ++ 34 :: rest)).foldlM Scanner.next? ⟨tokens, .blank⟩ =
      rest.foldlM Scanner.next? ⟨.quoted body :: tokens, .blank⟩ := by
  have opens : Scanner.next? ⟨tokens, .blank⟩ 34 = some ⟨tokens, .quoted .plain []⟩ := rfl
  have closes : Scanner.next? ⟨tokens, .quoted .plain (body.reverse ++ [])⟩ 34 =
      some ⟨.quoted body :: tokens, .blank⟩ := by
    simp [Scanner.next?, Scanner.push]
  rw [List.foldlM_cons, opens]
  simp only [Option.bind_eq_bind, Option.bind_some, List.foldlM_append, scan_escapes tokens [] goes, List.foldlM_cons,
    closes]

def digit (d : Nat) : UInt8 :=
  UInt8.ofNat (48 + d)

/-- A natural number as it is written. -/
def digits (n : Nat) : Bytes :=
  Text.bytes (Print.natural n)

private theorem digits_eq (n : Nat) : digits n = (Nat.toDigits 10 n).flatMap String.utf8EncodeChar :=
  Text.bytes_ofList _

private theorem utf8_digitChar {d : Nat} (small : d < 10) : String.utf8EncodeChar d.digitChar = [digit d] := by
  have all : ∀ d : Fin 10, String.utf8EncodeChar d.val.digitChar = [digit d.val] := by decide
  exact all ⟨d, small⟩

private theorem digits_of_lt {n : Nat} (small : n < 10) : digits n = [digit n] := by
  rw [digits_eq, Nat.toDigits_of_lt_base small, List.flatMap_singleton, utf8_digitChar small]

private theorem digits_more {n d : Nat} (positive : 0 < n) (small : d < 10) :
    digits (10 * n + d) = digits n ++ [digit d] := by
  rw [digits_eq, ← Nat.toDigits_append_toDigits (by omega) positive small, List.flatMap_append, ← digits_eq,
    Nat.toDigits_of_lt_base small, List.flatMap_singleton, utf8_digitChar small]

/-- A number has one digit, or one digit more than a smaller number. -/
private theorem digits_induction {p : Nat → Prop} (one : ∀ d < 10, p d)
    (more : ∀ n d, 0 < n → d < 10 → p n → p (10 * n + d)) (n : Nat) : p n := by
  induction n using Nat.strongRecOn with
  | ind n ih =>
    by_cases small : n < 10
    · exact one n small
    · have step := more (n / 10) (n % 10) (by omega) (by omega) (ih (n / 10) (by omega))
      rwa [show 10 * (n / 10) + n % 10 = n by omega] at step

private theorem toNat_digit {d : Nat} (small : d < 10) : (digit d).toNat = 48 + d := by
  rw [digit, UInt8.toNat_ofNat']
  omega

private theorem isDigit_digit {d : Nat} (small : d < 10) : isDigit (digit d) = true := by
  have all : ∀ d : Fin 10, isDigit (digit d.val) = true := by decide
  exact all ⟨d, small⟩

private theorem all_isDigit_digits (n : Nat) : (digits n).all isDigit = true := by
  induction n using digits_induction with
  | one d small => rw [digits_of_lt small]; simp [isDigit_digit small]
  | more n d positive small ih => rw [digits_more positive small]; simp [ih, isDigit_digit small]

private theorem digitsValue_digits (n : Nat) : digitsValue (digits n) = n := by
  induction n using digits_induction with
  | one d small => rw [digits_of_lt small]; simp [digitsValue, toNat_digit small]
  | more n d positive small ih =>
    rw [digits_more positive small, digitsValue, List.foldl_append]
    show 10 * digitsValue (digits n) + ((digit d).toNat - 48) = _
    rw [ih, toNat_digit small]
    omega

/-- A number below a power of ten has at most as many digits. -/
private theorem length_digits_le {k : Nat} (positive : 0 < k) {n : Nat} (small : n < Nat.pow 10 k) :
    (digits n).length ≤ k := by
  induction n using digits_induction generalizing k with
  | one d one => rw [digits_of_lt one]; exact positive
  | more n d here one ih =>
    rw [digits_more here one, List.length_append, List.length_singleton]
    obtain ⟨k, rfl⟩ : ∃ k', k = k' + 1 := ⟨k - 1, by omega⟩
    replace small : 10 * n + d < Nat.pow 10 k * 10 := small
    have some_left : 0 < k := by
      rcases Nat.eq_zero_or_pos k with rfl | left
      · replace small : 10 * n + d < 1 * 10 := small
        omega
      · exact left
    have rest := ih some_left (by omega)
    omega

theorem length_digits {n : Nat} (small : n ≤ maxNatural) : (digits n).length ≤ 20 := by
  refine length_digits_le (by decide) (Nat.lt_of_le_of_lt small ?_)
  decide

theorem natural?_digits {n : Nat} (small : n ≤ maxNatural) : natural? (digits n) = some n := by
  have length := length_digits small
  simp [natural?, length, all_isDigit_digits, digitsValue_digits, small]

private theorem head_digits (n : Nat) : ∃ d < 10, (digits n).head? = some (digit d) := by
  induction n using digits_induction with
  | one d small => exact ⟨d, small, by rw [digits_of_lt small]; rfl⟩
  | more n d positive small ih =>
    obtain ⟨first, here, head⟩ := ih
    exact ⟨first, here, by rw [digits_more positive small, List.head?_append, head]; rfl⟩

/-- A number of at most 64 bits is in range: no digit of it is dropped. -/
theorem inRange_digits {n : Nat} (small : n ≤ maxNatural) : inRange (digits n) = true := by
  have unsigned : ¬(digits n).head? = some 45 := by
    obtain ⟨d, here, head⟩ := head_digits n
    rw [head, Option.some.injEq]
    intro sign
    have same := congrArg UInt8.toNat sign
    rw [toNat_digit here] at same
    simp at same
    omega
  have read : ∀ n, n ≤ maxNatural → (digits n).foldl Significand.addWhole {} = { value := n } := by
    intro n
    induction n using digits_induction with
    | one d one =>
      intro fits
      rw [digits_of_lt one]
      simp [Significand.addWhole, toNat_digit one]
      omega
    | more n d positive one ih =>
      intro fits
      have next : 10 * n + ((digit d).toNat - 48) = 10 * n + d := by
        rw [toNat_digit one]
        omega
      rw [digits_more positive one, List.foldl_append, ih (by omega), List.foldl_cons, List.foldl_nil,
        Significand.addWhole]
      simp only [next]
      rw [if_neg (by simp; omega)]
  have every := List.all_eq_true.mp (all_isDigit_digits n)
  have whole : (digits n).takeWhile isDigit = digits n := List.takeWhile_eq_self_iff.mpr every
  have rest : (digits n).dropWhile isDigit = [] := List.dropWhile_eq_nil_iff.mpr every
  have exact : (significand (digits n)).exponent = 0 := by
    simp [significand, unsigned, whole, rest, read n small, exponentValue]
  simp [inRange, exact]

/-- The bytes behind a number: a comma, the end of a container, or a blank. -/
def behindNumbers : Bytes :=
  [44, 125, 93, 32, 10, 13, 9]

/-- A number that was written is scanned up to the byte behind it. -/
private theorem scan_digits (n : Nat) (tokens : List Token) :
    ∃ d : Digits, d.complete = true ∧ behindNumbers.all (d.next? · = none) = true ∧
      (digits n).foldlM Scanner.next? ⟨tokens, .blank⟩ = some ⟨tokens, .numeral d (digits n).reverse⟩ := by
  have first : ∀ d : Fin 10, 0 < d.val → Scanner.start? ⟨tokens, .blank⟩ (digit d.val) =
      some ⟨tokens, .numeral .whole [digit d.val]⟩ := by
    intro d
    match d with
    | 0 => exact fun positive => absurd positive (by decide)
    | 1 | 2 | 3 | 4 | 5 | 6 | 7 | 8 | 9 => exact fun _ => rfl
  by_cases zero : n = 0
  · subst zero
    exact ⟨.zero, rfl, by decide, rfl⟩
  · refine ⟨.whole, rfl, by decide, ?_⟩
    revert zero
    induction n using digits_induction with
    | one d small =>
      intro zero
      rw [digits_of_lt small, List.foldlM_cons]
      show (Scanner.start? ⟨tokens, .blank⟩ (digit d)).bind _ = _
      rw [first ⟨d, small⟩ (by simpa using Nat.pos_of_ne_zero zero)]
      rfl
    | more n d positive small ih =>
      intro _
      rw [digits_more positive small, List.foldlM_append, ih (by omega)]
      simp [Scanner.next?, Digits.next?, isDigit_digit small]

theorem scan_natural (n : Nat) (tokens : List Token) {b : UInt8} (ends : b ∈ behindNumbers) (rest : Bytes) :
    (digits n ++ b :: rest).foldlM Scanner.next? ⟨tokens, .blank⟩ =
      (b :: rest).foldlM Scanner.next? ⟨.numeral (digits n) :: tokens, .blank⟩ := by
  obtain ⟨d, complete, past, scanned⟩ := scan_digits n tokens
  have stops : d.next? b = none := of_decide_eq_true (List.all_eq_true.mp past b ends)
  rw [List.foldlM_append, scanned]
  simp [Scanner.next?, stops, complete, Scanner.push]

end Json
end Lockstep
