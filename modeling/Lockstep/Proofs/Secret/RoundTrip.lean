import Lockstep.Secret
import Lockstep.Text.Blank

namespace Lockstep
namespace Base64

private theorem letter_spec {n : Nat} (small : n < 64) :
    value? (letter n) = some n ∧ letter n ≠ '=' ∧ Text.isBlank (letter n) = false := by
  have all : ∀ n : Fin 64,
      value? (letter n) = some n.val ∧ letter n ≠ '=' ∧ Text.isBlank (letter n) = false := by decide
  exact all ⟨n, small⟩

private theorem value?_letter {n : Nat} (small : n < 64) : value? (letter n) = some n :=
  (letter_spec small).1

private theorem letter_ne_pad {n : Nat} (small : n < 64) : letter n ≠ '=' :=
  (letter_spec small).2.1

private theorem toNat_ofNat_eq {n : Nat} {b : UInt8} (same : n = b.toNat) : UInt8.ofNat n = b := by
  rw [same, UInt8.ofNat_toNat]

private theorem oneByte?_letters (a : UInt8) :
    oneByte? (letter (a.toNat / 4)) (letter (a.toNat % 4 * 16)) = some [a] := by
  have := a.toNat_lt
  simp only [oneByte?, value?_letter (show a.toNat / 4 < 64 by omega),
    value?_letter (show a.toNat % 4 * 16 < 64 by omega), Option.bind_eq_bind, Option.bind_some]
  rw [if_pos (by omega), toNat_ofNat_eq (b := a) (by omega)]

private theorem twoBytes?_letters (a b : UInt8) :
    twoBytes? (letter (a.toNat / 4)) (letter (a.toNat % 4 * 16 + b.toNat / 16)) (letter (b.toNat % 16 * 4)) =
      some [a, b] := by
  have := a.toNat_lt
  have := b.toNat_lt
  simp only [twoBytes?, value?_letter (show a.toNat / 4 < 64 by omega),
    value?_letter (show a.toNat % 4 * 16 + b.toNat / 16 < 64 by omega),
    value?_letter (show b.toNat % 16 * 4 < 64 by omega), Option.bind_eq_bind, Option.bind_some]
  rw [if_pos (by omega), toNat_ofNat_eq (b := a) (by omega), toNat_ofNat_eq (b := b) (by omega)]

private theorem threeBytes?_letters (a b c : UInt8) :
    threeBytes? (letter (a.toNat / 4)) (letter (a.toNat % 4 * 16 + b.toNat / 16))
      (letter (b.toNat % 16 * 4 + c.toNat / 64)) (letter (c.toNat % 64)) = some [a, b, c] := by
  have := a.toNat_lt
  have := b.toNat_lt
  have := c.toNat_lt
  simp only [threeBytes?, value?_letter (show a.toNat / 4 < 64 by omega),
    value?_letter (show a.toNat % 4 * 16 + b.toNat / 16 < 64 by omega),
    value?_letter (show b.toNat % 16 * 4 + c.toNat / 64 < 64 by omega),
    value?_letter (show c.toNat % 64 < 64 by omega), Option.bind_eq_bind, Option.bind_some]
  rw [toNat_ofNat_eq (b := a) (by omega), toNat_ofNat_eq (b := b) (by omega), toNat_ofNat_eq (b := c) (by omega)]

/-- Four characters of which the last is no equals sign are three bytes. -/
private theorem decodeAfter_group {a b c d : Char} {bytes read : Bytes} (letters : threeBytes? a b c d = some bytes)
    (unpadded : d ≠ '=') (rest : List Char) :
    decodeAfter read (a :: b :: c :: d :: rest) = decodeAfter (bytes.reverse ++ read) rest := by
  rw [decodeAfter.eq_4 _ _ _ _ _ _ (fun _ last _ => unpadded last) (fun last _ => unpadded last), letters]

private theorem decodeAfter_encodeList (read bytes : Bytes) :
    decodeAfter read (encodeList bytes) = some (read.reverse ++ bytes) := by
  induction bytes using encodeList.induct generalizing read with
  | case1 => simp [encodeList, decodeAfter]
  | case2 a => simp [encodeList, decodeAfter, oneByte?_letters]
  | case3 a b =>
    have := b.toNat_lt
    have unpadded : letter (b.toNat % 16 * 4) ≠ '=' := letter_ne_pad (by omega)
    rw [encodeList, decodeAfter.eq_3 _ _ _ _ unpadded, twoBytes?_letters]
    rfl
  | case4 a b c rest ih =>
    have := c.toNat_lt
    rw [encodeList, decodeAfter_group (threeBytes?_letters a b c) (letter_ne_pad (by omega)), ih]
    simp

/-- What is written is read back. -/
theorem decode?_encode (bytes : Bytes) : decode? (encode bytes) = some bytes := by
  rw [decode?, encode, String.toList_ofList, decodeAfter_encodeList]
  rfl

theorem not_blank_of_mem (bytes : Bytes) : ∀ c ∈ encodeList bytes, Text.isBlank c = false := by
  have letters : ∀ n < 64, Text.isBlank (letter n) = false := fun n small => (letter_spec small).2.2
  have pad : Text.isBlank '=' = false := by decide
  have bound : ∀ b : UInt8, b.toNat < 256 := UInt8.toNat_lt
  induction bytes using encodeList.induct with
  | case1 => simp [encodeList]
  | case2 a =>
    have := bound a
    simp (disch := omega) [encodeList, letters, pad]
  | case3 a b =>
    have := bound a
    have := bound b
    simp (disch := omega) [encodeList, letters, pad]
  | case4 a b c rest ih =>
    have := bound a
    have := bound b
    have := bound c
    simpa (disch := omega) [encodeList, letters] using ih

/-- Bytes that are no whole number of groups of three end with an equals sign. -/
private theorem pad_mem {bytes : Bytes} (uneven : bytes.length % 3 ≠ 0) : '=' ∈ encodeList bytes := by
  induction bytes using encodeList.induct with
  | case1 => exact absurd rfl uneven
  | case2 | case3 => simp [encodeList]
  | case4 a b c rest ih =>
    simp only [List.length_cons] at uneven
    simp only [encodeList, List.mem_cons]
    exact .inr (.inr (.inr (.inr (ih (by omega)))))

end Base64

/-- A text without blanks is not trimmed. -/
private theorem Text.trim_ofList {s : List Char} (dense : ∀ c ∈ s, isBlank c = false) :
    trim (String.ofList s) = String.ofList s := by
  have keeps : ∀ t : List Char, (∀ c ∈ t, isBlank c = false) → t.dropWhile isBlank = t := by
    intro t dense
    cases t with
    | nil => rfl
    | cons c t => rw [List.dropWhile_cons_of_neg (by simp [dense c (List.mem_cons_self ..)])]
  rw [trim, trimBlanks, String.toList_ofList, keeps s dense, keeps s.reverse (by simpa using dense),
    List.reverse_reverse]

namespace Secret

private theorem trim_toBase64 (s : Secret) : Text.trim s.toBase64 = s.toBase64 :=
  Text.trim_ofList (Base64.not_blank_of_mem s.key)

theorem pad_mem_toBase64 (s : Secret) : '=' ∈ s.toBase64.toList := by
  rw [toBase64, Base64.encode, String.toList_ofList]
  exact Base64.pad_mem (by simp [s.length_key])

private theorem decode?_toBase64 (s : Secret) : Base64.decode? (Text.trim s.toBase64) = some s.key := by
  rw [trim_toBase64, toBase64, Base64.decode?_encode]

/-- The text of a secret is read as this secret. -/
theorem parse_toBase64 (s : Secret) : parse s.toBase64 = .ok s := by
  simp [parse, decode?_toBase64, s.length_key]

theorem verify_toBase64 (s : Secret) : s.verify s.toBase64 = true := by
  simp [verify, decode?_toBase64]

end Secret
end Lockstep
