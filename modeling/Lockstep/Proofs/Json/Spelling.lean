import Lockstep.Proofs.Json.Literals
import Mathlib.Data.List.Forall2

namespace Lockstep.Json

variable {b : UInt8} {c : Char} {d n : Nat} {bs body : Bytes} {s : String}

/-- A hexadecimal digit, small or capital. -/
def Hexadecimal (d : Nat) (b : UInt8) : Prop :=
  d < 10 ∧ b.toNat = 48 + d ∨ 10 ≤ d ∧ d < 16 ∧ (b.toNat = 87 + d ∨ b.toNat = 55 + d)

instance : Decidable (Hexadecimal d b) :=
  inferInstanceAs (Decidable (_ ∨ _))

/-- The four digits of a code unit. -/
inductive CodeUnit (n : Nat) : Bytes → Prop where
  | digits {a b c d : UInt8} : Hexadecimal (n / 4096) a → Hexadecimal (n / 256 % 16) b →
      Hexadecimal (n / 16 % 16) c → Hexadecimal (n % 16) d → CodeUnit n [a, b, c, d]

private theorem hexDigit?_of_hexadecimal (digit : Hexadecimal d b) : hexDigit? b = some d := by
  unfold hexDigit? isDigit
  simp only [UInt8.le_iff_toNat_le, Bool.and_eq_true, decide_eq_true_eq]
  rcases digit with ⟨small, value⟩ | ⟨low, high, value | value⟩
  · rw [if_pos (by simp; omega)]
    simp [value]
  · rw [if_neg (by simp; omega), if_pos (by simp; omega)]
    simp [value]
  · rw [if_neg (by simp; omega), if_neg (by simp; omega), if_pos (by simp; omega)]
    simp [value]

private theorem escape_codeUnit (unit : CodeUnit n bs) : bs.foldlM Escape.next? (.hex 3) = some .plain := by
  obtain ⟨first, second, third, fourth⟩ := unit
  simp [List.foldlM_cons, Escape.next?, hexDigit?_of_hexadecimal first, hexDigit?_of_hexadecimal second,
    hexDigit?_of_hexadecimal third, hexDigit?_of_hexadecimal fourth]

private theorem unquote_codeUnit (unit : CodeUnit n bs) (high : Option Nat) (read : Bytes) :
    bs.foldlM Unquoting.next? (.hex 0 3 high, read) = endEscape? read n high := by
  obtain ⟨first, second, third, fourth⟩ := unit
  have value : 16 * (16 * (16 * (16 * 0 + n / 4096) + n / 256 % 16) + n / 16 % 16) + n % 16 = n := by omega
  simp only [List.foldlM_cons, List.foldlM_nil, Unquoting.next?, hexDigit?_of_hexadecimal first,
    hexDigit?_of_hexadecimal second, hexDigit?_of_hexadecimal third, hexDigit?_of_hexadecimal fourth, Option.map_some,
    Option.bind_eq_bind, Option.bind_some, value, Option.pure_def, Option.bind_fun_some]

/-- The characters that have a short escape, and the letter behind the backslash. -/
def shortEscapes : List (Char × UInt8) :=
  [('"', 34), ('\\', 92), ('/', 47), ('\x08', 98), ('\x0c', 102), ('\n', 110), ('\r', 114), ('\t', 116)]

/-- A character between quotes. -/
inductive Spelling (c : Char) : Bytes → Prop where
  | plain : c ≠ '"' → c ≠ '\\' → 32 ≤ c.toNat → Spelling c (String.utf8EncodeChar c)
  | short {letter : UInt8} : (c, letter) ∈ shortEscapes → Spelling c [92, letter]
  | unit {digits : Bytes} : CodeUnit c.toNat digits → Spelling c (92 :: 117 :: digits)
  /-- What lies beyond the code units of 16 bits is a pair of surrogates. -/
  | pair {high low : Bytes} : 0x10000 ≤ c.toNat → CodeUnit (0xD800 + (c.toNat - 0x10000) / 0x400) high →
      CodeUnit (0xDC00 + (c.toNat - 0x10000) % 0x400) low → Spelling c (92 :: 117 :: high ++ 92 :: 117 :: low)

private theorem charBytes_toNat (c : Char) : charBytes c.toNat = String.utf8EncodeChar c := by
  rw [charBytes, Char.ofNat_toNat, String.singleton_eq_ofList, Text.bytes_ofList]
  simp

private theorem toNat_of_char (c : Char) : c.toNat < 0xD800 ∨ 0xDFFF < c.toNat ∧ c.toNat < 0x110000 :=
  c.valid

/-- The bytes of a character that needs no escape open none, and do not end the text. -/
private theorem plain_bytes (quote : c ≠ '"') (backslash : c ≠ '\\') (visible : 32 ≤ c.toNat) :
    ∀ b ∈ String.utf8EncodeChar c, b ≠ 34 ∧ b ≠ 92 ∧ ¬ b < 32 := by
  revert quote backslash visible
  refine forall_char (p := fun c => c ≠ '"' → c ≠ '\\' → 32 ≤ c.toNat →
    ∀ b ∈ String.utf8EncodeChar c, b ≠ 34 ∧ b ≠ 92 ∧ ¬ b < 32) ?_ ?_ c
  · decide +kernel
  · intro c large _ _ _ b member
    have high := Text.utf8_of_large large b member
    refine ⟨ne_of_high high (by decide), ne_of_high high (by decide), ?_⟩
    rw [UInt8.lt_iff_toNat_lt]
    simp
    omega

private theorem escape_plain (plain : ∀ b ∈ bs, b ≠ 34 ∧ b ≠ 92 ∧ ¬ b < 32) :
    bs.foldlM Escape.next? .plain = some .plain := by
  induction bs with
  | nil => rfl
  | cons b bs ih =>
    obtain ⟨quote, backslash, visible⟩ := plain b (List.mem_cons_self ..)
    rw [List.foldlM_cons, Escape.next?, if_neg backslash, if_neg (not_or.mpr ⟨quote, visible⟩)]
    exact ih fun b member => plain b (List.mem_cons_of_mem _ member)

private theorem unquote_plain (plain : ∀ b ∈ bs, b ≠ 34 ∧ b ≠ 92 ∧ ¬ b < 32) (read : Bytes) :
    bs.foldlM Unquoting.next? (.plain, read) = some (.plain, bs.reverse ++ read) := by
  induction bs generalizing read with
  | nil => rfl
  | cons b bs ih =>
    rw [List.foldlM_cons, Unquoting.next?, if_neg (plain b (List.mem_cons_self ..)).2.1]
    simpa using ih (fun b member => plain b (List.mem_cons_of_mem _ member)) (b :: read)

private theorem escape_of_spelling (spelling : Spelling c bs) : bs.foldlM Escape.next? .plain = some .plain := by
  cases spelling with
  | plain quote backslash visible =>
    exact escape_plain (plain_bytes quote backslash visible)
  | short listed =>
    have each : ∀ e ∈ shortEscapes, [92, e.2].foldlM Escape.next? .plain = some .plain := by decide
    exact each _ listed
  | unit digits => exact escape_codeUnit digits
  | @pair high low _ first second =>
    show (high ++ 92 :: 117 :: low).foldlM Escape.next? (.hex 3) = _
    rw [List.foldlM_append, escape_codeUnit first]
    exact escape_codeUnit second

private theorem unquote_of_spelling (spelling : Spelling c bs) (read : Bytes) :
    bs.foldlM Unquoting.next? (.plain, read) = some (.plain, (String.utf8EncodeChar c).reverse ++ read) := by
  have valid := toNat_of_char c
  cases spelling with
  | plain quote backslash visible =>
    exact unquote_plain (plain_bytes quote backslash visible) read
  | @short letter listed =>
    have each : ∀ e ∈ shortEscapes, e.2 ≠ 117 ∧ (shortEscape? e.2).map ([·]) = some (String.utf8EncodeChar e.1) := by
      decide
    obtain ⟨other, stands⟩ := each _ listed
    obtain ⟨b, escape, byte⟩ := Option.map_eq_some_iff.mp stands
    have begins : Unquoting.next? (.plain, read) 92 = some (.begun, read) := rfl
    rw [← byte, List.foldlM_cons, begins]
    simp [Unquoting.next?, other, escape]
  | @unit digits number =>
    show digits.foldlM Unquoting.next? (.hex 0 3 none, read) = _
    rw [unquote_codeUnit number, endEscape?, if_neg (by omega), if_neg (by omega), charBytes_toNat]
  | @pair high low large first second =>
    show (high ++ 92 :: 117 :: low).foldlM Unquoting.next? (.hex 0 3 none, read) = _
    rw [List.foldlM_append, unquote_codeUnit first, endEscape?, if_pos (by omega)]
    show low.foldlM Unquoting.next? (.hex 0 3 (some (0xD800 + (c.toNat - 0x10000) / 0x400)), read) = _
    rw [unquote_codeUnit second, endEscape?, if_pos (by omega)]
    rw [show 0x10000 + (0xD800 + (c.toNat - 0x10000) / 0x400 - 0xD800) * 0x400 +
      (0xDC00 + (c.toNat - 0x10000) % 0x400 - 0xDC00) = c.toNat by omega, charBytes_toNat]

/-- These bytes between quotes stand for a text. -/
def Spelled (s : String) (body : Bytes) : Prop :=
  ∃ pieces : List Bytes, List.Forall₂ Spelling s.toList pieces ∧ body = pieces.flatten

theorem Spelling.spelled (spelling : Spelling c body) : Spelled (String.singleton c) body :=
  ⟨[body], by simpa using spelling, by simp⟩

theorem Spelled.append {s' : String} {body' : Bytes} (spelled : Spelled s body) (spelled' : Spelled s' body') :
    Spelled (s ++ s') (body ++ body') := by
  obtain ⟨pieces, each, rfl⟩ := spelled
  obtain ⟨pieces', each', rfl⟩ := spelled'
  exact ⟨pieces ++ pieces', by rw [String.toList_append]; exact List.rel_append each each', by simp⟩

theorem escape_of_spelled (spelled : Spelled s body) : body.foldlM Escape.next? .plain = some .plain := by
  obtain ⟨pieces, each, rfl⟩ := spelled
  generalize s.toList = cs at each
  induction each with
  | nil => rfl
  | cons first _ ih =>
    rw [List.flatten_cons, List.foldlM_append, escape_of_spelling first]
    exact ih

theorem text?_of_spelled (spelled : Spelled s body) : text? body = some s := by
  obtain ⟨pieces, each, rfl⟩ := spelled
  have all {cs : List Char} {pieces : List Bytes} (each : List.Forall₂ Spelling cs pieces) (read : Bytes) :
      pieces.flatten.foldlM Unquoting.next? (.plain, read) =
        some (.plain, (cs.flatMap String.utf8EncodeChar).reverse ++ read) := by
    induction each generalizing read with
    | nil => rfl
    | @cons c piece cs pieces first _ ih =>
      rw [List.flatten_cons, List.foldlM_append, unquote_of_spelling first]
      simpa using ih ((String.utf8EncodeChar c).reverse ++ read)
  have bytes : s.toList.flatMap String.utf8EncodeChar = Text.bytes s := by
    rw [← Text.bytes_ofList, String.ofList_toList]
  rw [text?, all each, bytes]
  simpa using Text.ofBytes?_bytes s

/-- The digits of a control character, small ones. -/
def controlUnit (n : Nat) : Bytes :=
  [48, 48, UInt8.ofNat (48 + n / 16), UInt8.ofNat (if n % 16 < 10 then 48 + n % 16 else 87 + n % 16)]

private theorem codeUnit_control (control : n < 32) : CodeUnit n (controlUnit n) := by
  have byte {k : Nat} (small : k < 256) : (UInt8.ofNat k).toNat = k := by
    rw [UInt8.toNat_ofNat']
    omega
  refine .digits (.inl ⟨by omega, ?_⟩) (.inl ⟨by omega, ?_⟩) (.inl ⟨by omega, ?_⟩) ?_
  · show 48 = _
    omega
  · show 48 = _
    omega
  · rw [byte (by omega)]
    omega
  · by_cases low : n % 16 < 10
    · rw [if_pos low]
      exact .inl ⟨low, byte (by omega)⟩
    · rw [if_neg low]
      exact .inr ⟨by omega, by omega, .inl (byte (by omega))⟩

/-- A character that needs no escape is written as it is. -/
private theorem escapedChar_of_plain (quote : c ≠ '"') (backslash : c ≠ '\\') (visible : 32 ≤ c.toNat) :
    escapedChar c = String.utf8EncodeChar c := by
  have ne : ∀ d : Char, d.toNat < 32 → c ≠ d := by
    rintro d control rfl
    omega
  have plain : Print.escapeChar c = [c] := by
    simp [Print.escapeChar, quote, backslash, ne '\x08' (by decide), ne '\x0c' (by decide), ne '\n' (by decide),
      ne '\r' (by decide), ne '\t' (by decide), show ¬ c.toNat < 32 by omega]
  simp [escapedChar, plain]

private theorem spelling_escapedChar (c : Char) : Spelling c (escapedChar c) := by
  have ways : (c ≠ '"' ∧ c ≠ '\\' ∧ 32 ≤ c.toNat) ∨ (∃ e ∈ shortEscapes, c = e.1 ∧ escapedChar c = [92, e.2]) ∨
      c.toNat < 32 ∧ escapedChar c = 92 :: 117 :: controlUnit c.toNat := by
    refine forall_char (p := fun c => (c ≠ '"' ∧ c ≠ '\\' ∧ 32 ≤ c.toNat) ∨
      (∃ e ∈ shortEscapes, c = e.1 ∧ escapedChar c = [92, e.2]) ∨
      c.toNat < 32 ∧ escapedChar c = 92 :: 117 :: controlUnit c.toNat) ?_ ?_ c
    · decide +kernel
    · intro c large
      refine .inl ⟨?_, ?_, by omega⟩
      · rintro rfl
        exact absurd large (by decide)
      · rintro rfl
        exact absurd large (by decide)
  rcases ways with ⟨quote, backslash, visible⟩ | ⟨e, listed, rfl, written⟩ | ⟨control, written⟩
  · rw [escapedChar_of_plain quote backslash visible]
    exact .plain quote backslash visible
  · rw [written]
    exact .short listed
  · rw [written]
    exact .unit (codeUnit_control control)

/-- What is written is one of the spellings. -/
theorem spelled_escaped (s : String) : Spelled s (escaped s) := by
  refine ⟨s.toList.map escapedChar, ?_, List.flatMap_def ..⟩
  rw [List.forall₂_map_right_iff]
  exact List.forall₂_same.mpr fun c _ => spelling_escapedChar c

theorem escape_escaped (s : String) : (escaped s).foldlM Escape.next? .plain = some .plain :=
  escape_of_spelled (spelled_escaped s)

theorem text?_escaped (s : String) : text? (escaped s) = some s :=
  text?_of_spelled (spelled_escaped s)

end Lockstep.Json
