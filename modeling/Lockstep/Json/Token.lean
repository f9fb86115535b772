import Lockstep.Text.Bytes

/-!
# Tokens of JSON text

The bytes of a JSON text fall apart into tokens. Scanning checks the form of a
token (the letters of a word, the grammar of a numeral, which escapes there
are), and nothing about what the token stands for: a quoted token may hold
bytes that are no text, a numeral may be larger than any number.
-/
namespace Lockstep.Json

inductive Token where
  | openObject | closeObject | openArray | closeArray | colon | comma
  | null
  | truth (value : Bool)
  /-- A number as it is written. -/
  | numeral (written : Bytes)
  /-- What stands between two quotes, escapes and all. -/
  | quoted (body : Bytes)
  deriving DecidableEq, Repr

/-- How far a numeral has been read. -/
inductive Digits where
  | sign | zero | whole | point | fraction | mark | markSign | exponent
  deriving DecidableEq, Repr

/-- A numeral may end here. -/
def Digits.complete : Digits → Bool
  | .zero | .whole | .fraction | .exponent => true
  | _ => false

def isDigit (b : UInt8) : Bool :=
  48 ≤ b && b ≤ 57

/-- Reads one more byte of a numeral. -/
def Digits.next? (d : Digits) (b : UInt8) : Option Digits :=
  match d with
  | .sign => if b = 48 then some .zero else if isDigit b then some .whole else none
  | .zero => if b = 46 then some .point else if b = 101 ∨ b = 69 then some .mark else none
  | .whole =>
    if isDigit b then some .whole else if b = 46 then some .point else if b = 101 ∨ b = 69 then some .mark else none
  | .point => if isDigit b then some .fraction else none
  | .fraction => if isDigit b then some .fraction else if b = 101 ∨ b = 69 then some .mark else none
  | .mark => if b = 43 ∨ b = 45 then some .markSign else if isDigit b then some .exponent else none
  | .markSign => if isDigit b then some .exponent else none
  | .exponent => if isDigit b then some .exponent else none

/-- What the next byte inside quotes means. -/
inductive Escape where
  | plain
  /-- After a backslash. -/
  | begun
  /-- A hexadecimal digit, and so many more after it. -/
  | hex (more : Nat)
  deriving DecidableEq, Repr

def hexDigit? (b : UInt8) : Option Nat :=
  if isDigit b then some (b.toNat - 48)
  else if 97 ≤ b ∧ b ≤ 102 then some (b.toNat - 87)
  else if 65 ≤ b ∧ b ≤ 70 then some (b.toNat - 55)
  else none

/-- The byte that a short escape stands for: the letter after the backslash is one of a few. -/
def shortEscape? (b : UInt8) : Option UInt8 :=
  if b = 34 ∨ b = 92 ∨ b = 47 then some b
  else if b = 98 then some 8
  else if b = 102 then some 12
  else if b = 110 then some 10
  else if b = 114 then some 13
  else if b = 116 then some 9
  else none

/-- Reads one more byte between quotes; the closing quote and a control character are none. -/
def Escape.next? (e : Escape) (b : UInt8) : Option Escape :=
  match e with
  | .plain => if b = 92 then some .begun else if b = 34 ∨ b < 32 then none else some .plain
  | .begun => if b = 117 then some (.hex 3) else if (shortEscape? b).isSome then some .plain else none
  | .hex 0 => if (hexDigit? b).isSome then some .plain else none
  | .hex (n + 1) => if (hexDigit? b).isSome then some (.hex n) else none

/-- The token that is being read; its bytes are kept last first. -/
inductive Partial where
  | blank
  | word (missing : Bytes) (token : Token)
  | numeral (digits : Digits) (read : Bytes)
  | quoted (escape : Escape) (read : Bytes)
  deriving DecidableEq, Repr

structure Scanner where
  /-- The tokens read, last first. -/
  tokens : List Token := []
  current : Partial := .blank
  deriving DecidableEq, Repr

namespace Scanner

/-- A token is complete. -/
def push (s : Scanner) (t : Token) : Scanner :=
  ⟨t :: s.tokens, .blank⟩

/-- The first byte of a token, or a blank between tokens. -/
def start? (s : Scanner) (b : UInt8) : Option Scanner :=
  if b = 32 ∨ b = 10 ∨ b = 13 ∨ b = 9 then some ⟨s.tokens, .blank⟩
  else if b = 123 then some (s.push .openObject)
  else if b = 125 then some (s.push .closeObject)
  else if b = 91 then some (s.push .openArray)
  else if b = 93 then some (s.push .closeArray)
  else if b = 58 then some (s.push .colon)
  else if b = 44 then some (s.push .comma)
  else if b = 34 then some ⟨s.tokens, .quoted .plain []⟩
  else if b = 110 then some ⟨s.tokens, .word [117, 108, 108] .null⟩
  else if b = 116 then some ⟨s.tokens, .word [114, 117, 101] (.truth true)⟩
  else if b = 102 then some ⟨s.tokens, .word [97, 108, 115, 101] (.truth false)⟩
  else if b = 45 then some ⟨s.tokens, .numeral .sign [b]⟩
  else if b = 48 then some ⟨s.tokens, .numeral .zero [b]⟩
  else if isDigit b then some ⟨s.tokens, .numeral .whole [b]⟩
  else none

def next? (s : Scanner) (b : UInt8) : Option Scanner :=
  match s.current with
  | .blank => s.start? b
  | .word [] _ => none
  | .word [last] t => if b = last then some (s.push t) else none
  | .word (c :: missing) t => if b = c then some ⟨s.tokens, .word missing t⟩ else none
  | .numeral d read =>
    match d.next? b with
    | some d => some ⟨s.tokens, .numeral d (b :: read)⟩
    | none => if d.complete then (s.push (.numeral read.reverse)).start? b else none
  | .quoted e read =>
    if e = .plain ∧ b = 34 then some (s.push (.quoted read.reverse))
    else (e.next? b).map fun e => ⟨s.tokens, .quoted e (b :: read)⟩

/-- The tokens, when the text may end here. -/
def finish? (s : Scanner) : Option (List Token) :=
  match s.current with
  | .blank => some s.tokens.reverse
  | .numeral d read => if d.complete then some (Token.numeral read.reverse :: s.tokens).reverse else none
  | _ => none

end Scanner

def tokens? (text : Bytes) : Option (List Token) :=
  (text.foldlM Scanner.next? {}).bind Scanner.finish?

end Lockstep.Json
