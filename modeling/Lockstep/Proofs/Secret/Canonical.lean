import Lockstep.Proofs.Secret.RoundTrip
import Mathlib.Tactic.SplitIfs

/-!
# One text for each secret

What is read in base 64 is what would be written for the bytes that come out
(`Base64.decode?_eq_some_iff`): no other letters, no other padding and no spare
bits are read. So a secret has one text, and a text that is not the one of some
secret is refused (`Secret.accepted_text_unique`).
-/
namespace Lockstep
namespace Base64

variable {a b c d : Char} {n : Nat} {bytes : Bytes}

private theorem letter_of_value? (found : value? c = some n) : n < 64 ∧ letter n = c := by
  have here : Char.ofNat c.toNat = c := c.ofNat_toNat
  simp only [value?] at found
  split_ifs at found with upper lower digit plus slash
  · cases found
    refine ⟨by omega, ?_⟩
    rw [letter, if_pos (by omega), Nat.sub_add_cancel (by omega), here]
  · cases found
    refine ⟨by omega, ?_⟩
    rw [letter, if_neg (by omega), if_pos (by omega), Nat.sub_add_cancel (by omega), here]
  · cases found
    refine ⟨by omega, ?_⟩
    rw [letter, if_neg (by omega), if_neg (by omega), if_pos (by omega), Nat.add_sub_cancel, here]
  · cases found
    exact ⟨by decide, plus ▸ by decide⟩
  · cases found
    exact ⟨by decide, slash ▸ by decide⟩

private theorem toNat_ofNat_of_lt {n : Nat} (small : n < 256) : (UInt8.ofNat n).toNat = n := by
  rw [UInt8.toNat_ofNat']
  omega

private theorem letters_of_oneByte? (found : oneByte? a b = some bytes) : [a, b, '=', '='] = encodeList bytes := by
  simp only [oneByte?, Option.bind_eq_bind, Option.bind_eq_some_iff, Option.ite_none_right_eq_some,
    Option.some.injEq] at found
  obtain ⟨x, first, y, second, spare, rfl⟩ := found
  obtain ⟨_, rfl⟩ := letter_of_value? first
  obtain ⟨_, rfl⟩ := letter_of_value? second
  have byte := toNat_ofNat_of_lt (show x * 4 + y / 16 < 256 by omega)
  simp only [encodeList, byte]
  rw [show (x * 4 + y / 16) / 4 = x by omega, show (x * 4 + y / 16) % 4 * 16 = y by omega]

private theorem letters_of_twoBytes? (found : twoBytes? a b c = some bytes) : [a, b, c, '='] = encodeList bytes := by
  simp only [twoBytes?, Option.bind_eq_bind, Option.bind_eq_some_iff, Option.ite_none_right_eq_some,
    Option.some.injEq] at found
  obtain ⟨x, first, y, second, z, third, spare, rfl⟩ := found
  obtain ⟨_, rfl⟩ := letter_of_value? first
  obtain ⟨_, rfl⟩ := letter_of_value? second
  obtain ⟨_, rfl⟩ := letter_of_value? third
  have byte := toNat_ofNat_of_lt (show x * 4 + y / 16 < 256 by omega)
  have byte' := toNat_ofNat_of_lt (show y % 16 * 16 + z / 4 < 256 by omega)
  simp only [encodeList, byte, byte']
  rw [show (x * 4 + y / 16) / 4 = x by omega,
    show (x * 4 + y / 16) % 4 * 16 + (y % 16 * 16 + z / 4) / 16 = y by omega,
    show (y % 16 * 16 + z / 4) % 16 * 4 = z by omega]

private theorem letters_of_threeBytes? (found : threeBytes? a b c d = some bytes) (rest : Bytes) :
    a :: b :: c :: d :: encodeList rest = encodeList (bytes ++ rest) := by
  simp only [threeBytes?, Option.bind_eq_bind, Option.bind_eq_some_iff, Option.some.injEq] at found
  obtain ⟨x, first, y, second, z, third, w, fourth, rfl⟩ := found
  obtain ⟨_, rfl⟩ := letter_of_value? first
  obtain ⟨_, rfl⟩ := letter_of_value? second
  obtain ⟨_, rfl⟩ := letter_of_value? third
  obtain ⟨_, rfl⟩ := letter_of_value? fourth
  have byte := toNat_ofNat_of_lt (show x * 4 + y / 16 < 256 by omega)
  have byte' := toNat_ofNat_of_lt (show y % 16 * 16 + z / 4 < 256 by omega)
  have byte'' := toNat_ofNat_of_lt (show z % 4 * 64 + w < 256 by omega)
  simp only [List.cons_append, List.nil_append, encodeList, byte, byte', byte'']
  rw [show (x * 4 + y / 16) / 4 = x by omega,
    show (x * 4 + y / 16) % 4 * 16 + (y % 16 * 16 + z / 4) / 16 = y by omega,
    show (y % 16 * 16 + z / 4) % 16 * 4 + (z % 4 * 64 + w) / 64 = z by omega,
    show (z % 4 * 64 + w) % 64 = w by omega]

/-- Only what is written for some bytes is read. -/
private theorem eq_encodeList_of_decodeAfter {read : Bytes} {text : List Char}
    (found : decodeAfter read text = some bytes) : ∃ more, bytes = read.reverse ++ more ∧ text = encodeList more := by
  fun_induction decodeAfter read text with
  | case1 read =>
    cases found
    exact ⟨[], by simp, rfl⟩
  | case2 read a b =>
    obtain ⟨more, group, rfl⟩ := Option.map_eq_some_iff.mp found
    exact ⟨more, rfl, letters_of_oneByte? group⟩
  | case3 read a b c =>
    obtain ⟨more, group, rfl⟩ := Option.map_eq_some_iff.mp found
    exact ⟨more, rfl, letters_of_twoBytes? group⟩
  | case4 read a b c d rest _ _ group letters ih =>
    obtain ⟨more, rfl, rfl⟩ := ih found
    refine ⟨group ++ more, ?_, letters_of_threeBytes? letters more⟩
    simp
  | case5 | case6 => cases found

private theorem decode?_eq_some_iff {s : String} : decode? s = some bytes ↔ s = encode bytes := by
  constructor
  · intro found
    obtain ⟨more, same, text⟩ := eq_encodeList_of_decodeAfter found
    rw [same, encode, List.reverse_nil, List.nil_append, ← text, String.ofList_toList]
  · rintro rfl
    exact decode?_encode bytes

/-- The letters of the numbers below 64, in their order. -/
def alphabet : List Char :=
  "ABCDEFGHIJKLMNOPQRSTUVWXYZabcdefghijklmnopqrstuvwxyz0123456789+/".toList

private theorem alphabet_getElem? (n : Fin 64) : alphabet[n.val]? = some (letter n) := by
  revert n
  decide

/-- The number that digits stand for, the most significant one first, behind those of another number. -/
def number (base before : Nat) (digits : List Nat) : Nat :=
  digits.foldl (fun n digit => base * n + digit) before

/-- Bytes that leave two over when they are taken three at a time are written with one equals sign. The letters before
    it are the digits in base 64 of the number that the bytes are the digits of in base 256, with two spare bits. -/
private theorem encodeList_of_two_over (two : bytes.length % 3 = 2) :
    ∃ digits : List (Fin 64), encodeList bytes = digits.map (fun d => letter d.val) ++ ['='] ∧
      4 * bytes.length + 1 = 3 * digits.length ∧
      ∀ before, number 64 before (digits.map Fin.val) = 4 * number 256 before (bytes.map UInt8.toNat) := by
  induction bytes using encodeList.induct with
  | case1 | case2 => simp at two
  | case3 a b =>
    have := a.toNat_lt
    have := b.toNat_lt
    refine ⟨[⟨a.toNat / 4, by omega⟩, ⟨a.toNat % 4 * 16 + b.toNat / 16, by omega⟩, ⟨b.toNat % 16 * 4, by omega⟩], rfl,
      rfl, fun before => ?_⟩
    simp only [number, List.map_cons, List.map_nil, List.foldl_cons, List.foldl_nil]
    omega
  | case4 a b c rest ih =>
    have := a.toNat_lt
    have := b.toNat_lt
    have := c.toNat_lt
    simp only [List.length_cons] at two ⊢
    obtain ⟨digits, written, length, same⟩ := ih (by omega)
    refine ⟨⟨a.toNat / 4, by omega⟩ :: ⟨a.toNat % 4 * 16 + b.toNat / 16, by omega⟩ ::
      ⟨b.toNat % 16 * 4 + c.toNat / 64, by omega⟩ :: ⟨c.toNat % 64, by omega⟩ :: digits, ?_, ?_, fun before => ?_⟩
    · rw [encodeList, written]
      rfl
    · simp only [List.length_cons]
      omega
    · -- four digits in base 64 move a number as far as three in base 256
      have group : 64 * (64 * (64 * (64 * before + a.toNat / 4) + (a.toNat % 4 * 16 + b.toNat / 16)) +
          (b.toNat % 16 * 4 + c.toNat / 64)) + c.toNat % 64 =
          256 * (256 * (256 * before + a.toNat) + b.toNat) + c.toNat := by omega
      have tail := same (256 * (256 * (256 * before + a.toNat) + b.toNat) + c.toNat)
      simp only [number, List.map_cons, List.foldl_cons] at tail ⊢
      rw [group, tail]

end Base64

namespace Secret

variable {s : Secret} {text : String}

private theorem verify_eq_true_iff : s.verify text = true ↔ Text.trim text = s.toBase64 := by
  rw [verify, decide_eq_true_iff, Base64.decode?_eq_some_iff, toBase64]

private theorem parse_eq_ok_iff : parse text = .ok s ↔ Text.trim text = s.toBase64 := by
  rw [toBase64, ← Base64.decode?_eq_some_iff]
  unfold parse
  split
  · rename_i nothing
    simp [nothing]
  · rename_i key found
    obtain ⟨own, length⟩ := s
    rw [found]
    split_ifs with fits
    · simp
    · have other : key ≠ own := by
        rintro rfl
        exact fits length
      simp [other]

/-- A text that is no secret is an invalid one, whatever is wrong with it. -/
private theorem parse_eq_error_iff :
    (∃ why, parse text = .error why ∧ why.fault.kind = .invalidSecret) ↔ ∀ s : Secret, Text.trim text ≠ s.toBase64 := by
  constructor
  · rintro ⟨why, refused, _⟩ s same
    rw [parse_eq_ok_iff.mpr same] at refused
    cases refused
  · intro none
    cases found : parse text with
    | ok s => exact absurd (parse_eq_ok_iff.mp found) (none s)
    | error why => exact ⟨why, rfl, by cases why <;> rfl⟩

private theorem verify_eq_false_iff :
    (∀ s : Secret, s.verify text = false) ↔ ∀ s : Secret, Text.trim text ≠ s.toBase64 := by
  apply forall_congr'
  intro s
  rw [← Bool.not_eq_true, verify_eq_true_iff]

/-- Of all texts, exactly one, with or without blanks around it, is taken for a secret by the server that has it and by
    a worker that is given it, and all others are refused. This text has 43 letters of the alphabet and an equals sign,
    and its letters are the digits of the bytes taken as one number, with two spare bits that are zero. -/
theorem accepted_text_unique :
    (∀ (s : Secret) (shown : String), s.verify shown = true ↔ Text.trim shown = s.toBase64) ∧
      (∀ (s : Secret) (text : String), parse text = .ok s ↔ Text.trim text = s.toBase64) ∧
      (∀ text : String, (∃ s, parse text = .ok s) ↔ ∃ s : Secret, Text.trim text = s.toBase64) ∧
      (∀ text : String, (∃ why, parse text = .error why ∧ why.fault.kind = .invalidSecret) ↔
        ∀ s : Secret, Text.trim text ≠ s.toBase64) ∧
      (∀ text : String, (∀ s : Secret, s.verify text = false) ↔ ∀ s : Secret, Text.trim text ≠ s.toBase64) ∧
      ∀ s : Secret, ∃ digits : List (Fin 64), digits.length = 43 ∧
        s.toBase64.toList.map some = digits.map (fun d => Base64.alphabet[d.val]?) ++ [some '='] ∧
        Base64.number 64 0 (digits.map Fin.val) = 4 * Base64.number 256 0 (s.key.map UInt8.toNat) := by
  refine ⟨fun _ _ => verify_eq_true_iff, fun _ _ => parse_eq_ok_iff, fun text => ?_, fun _ => parse_eq_error_iff,
    fun _ => verify_eq_false_iff, fun s => ?_⟩
  · exact exists_congr fun s => parse_eq_ok_iff
  · have length := s.length_key
    have two : s.key.length % 3 = 2 := by omega
    obtain ⟨digits, written, count, same⟩ := Base64.encodeList_of_two_over two
    refine ⟨digits, by omega, ?_, same 0⟩
    rw [toBase64, Base64.encode, String.toList_ofList, written, List.map_append, List.map_map]
    simp only [Base64.alphabet_getElem?]
    rfl

/-- A spare bit that is set, and an equals sign that is missing. -/
example :
    let text := "AAECAwQFBgcICQoLDA0ODxAREhMUFRYXGBkaGxwdHh"
    ["8=", "9=", "8"].map (fun last => (parse (text ++ last)).toOption.isSome) = [true, false, false] := by
  decide +kernel

end Secret
end Lockstep
