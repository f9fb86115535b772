import Lockstep.Json.Value
import Lockstep.Binary64

/-!
# What literals stand for

The text of a quoted token, the natural number of a numeral, and which numerals
are too large for a binary floating point number.
-/
namespace Lockstep.Json

/-- The UTF-8 bytes of a code point that is a character. -/
def charBytes (n : Nat) : Bytes :=
  Text.bytes (String.singleton (Char.ofNat n))

/-- How far the escapes of a quoted text have been resolved. -/
inductive Unquoting where
  | plain
  | begun
  /-- Inside a hexadecimal escape of value `value` so far, with `more` digits after the next one; `high` is
      the high surrogate that the escape before it left open. -/
  | hex (value more : Nat) (high : Option Nat)
  /-- After a high surrogate: the backslash of its low surrogate. -/
  | pair (high : Nat)
  /-- After that backslash. -/
  | pairBegun (high : Nat)

/-- A hexadecimal escape is complete. -/
def endEscape? (read : Bytes) (value : Nat) : Option Nat → Option (Unquoting × Bytes)
  | none =>
    if 0xD800 ≤ value ∧ value ≤ 0xDBFF then some (.pair value, read)
    else if 0xDC00 ≤ value ∧ value ≤ 0xDFFF then none
    else some (.plain, (charBytes value).reverse ++ read)
  | some high =>
    if 0xDC00 ≤ value ∧ value ≤ 0xDFFF then
      some (.plain, (charBytes (0x10000 + (high - 0xD800) * 0x400 + (value - 0xDC00))).reverse ++ read)
    else none

/-- Reads one byte between quotes; the bytes it stands for are kept last first. -/
def Unquoting.next? (s : Unquoting × Bytes) (b : UInt8) : Option (Unquoting × Bytes) :=
  match s with
  | (.plain, read) => if b = 92 then some (.begun, read) else some (.plain, b :: read)
  | (.begun, read) =>
    if b = 117 then some (.hex 0 3 none, read) else (shortEscape? b).map fun c => (.plain, c :: read)
  | (.hex value (more + 1) high, read) => (hexDigit? b).map fun d => (.hex (16 * value + d) more high, read)
  | (.hex value 0 high, read) => (hexDigit? b).bind fun d => endEscape? read (16 * value + d) high
  | (.pair high, read) => if b = 92 then some (.pairBegun high, read) else none
  | (.pairBegun high, read) => if b = 117 then some (.hex 0 3 (some high), read) else none

/-- The text between two quotes, when it is text: valid UTF-8 and no surrogate without its partner. -/
def text? (body : Bytes) : Option String :=
  (body.foldlM Unquoting.next? (.plain, [])).bind fun
    | (.plain, read) => Text.ofBytes? read.reverse
    | _ => none

def digitsValue (digits : Bytes) : Nat :=
  digits.foldl (fun n b => 10 * n + (b.toNat - 48)) 0

def maxNatural : Nat := 0xffffffffffffffff

/-- The natural number of at most 64 bits that a numeral without sign, point and exponent stands for. -/
def natural? (written : Bytes) : Option Nat :=
  -- no numeral starts with a zero that could be left out, so more than twenty digits are too many
  if written.length ≤ 20 ∧ written.all isDigit then
    let n := digitsValue written
    if n ≤ maxNatural then some n else none
  else none

/-- A significand of at most 64 bits and a power of ten. Digits that do not fit are dropped for good. -/
structure Significand where
  value : Nat := 0
  exponent : Int := 0
  full : Bool := false

namespace Significand

/-- One more digit before the point: a dropped one still counts as a place. -/
def addWhole (s : Significand) (b : UInt8) : Significand :=
  let next := 10 * s.value + (b.toNat - 48)
  if s.full ∨ maxNatural < next then { s with exponent := s.exponent + 1, full := true } else { s with value := next }

/-- One more digit after the point. -/
def addFraction (s : Significand) (b : UInt8) : Significand :=
  let next := 10 * s.value + (b.toNat - 48)
  if s.full ∨ maxNatural < next then { s with full := true }
  else { s with value := next, exponent := s.exponent - 1 }

end Significand

/-- The value of decimal digits, or the bound when it is larger. -/
def boundedValue (bound : Nat) (digits : Bytes) : Nat :=
  digits.foldl (fun n b => min bound (10 * n + (b.toNat - 48))) 0

/-- The power of ten that an exponent, with its sign, names; no text is long enough to make up for the bound. -/
def exponentValue : Bytes → Int
  | [] => 0
  | 45 :: digits => -(boundedValue 1000000000000 digits : Int)
  | 43 :: digits => boundedValue 1000000000000 digits
  | digits => boundedValue 1000000000000 digits

/-- The significand of a numeral and its power of ten. -/
def significand (written : Bytes) : Significand :=
  let unsigned := if written.head? = some 45 then written.drop 1 else written
  let whole := unsigned.takeWhile isDigit
  let rest := unsigned.dropWhile isDigit
  let read := whole.foldl Significand.addWhole {}
  let (fraction, rest) :=
    if rest.head? = some 46 then ((rest.drop 1).takeWhile isDigit, (rest.drop 1).dropWhile isDigit) else ([], rest)
  -- dropped digits before the point do not stop digits after it
  let read := fraction.foldl Significand.addFraction { read with full := false }
  { read with exponent := read.exponent + exponentValue (rest.drop 1) }

/-- The nearest floating point number to a natural number, as an exact natural number. -/
def nearest (n : Nat) : Nat :=
  match (Binary64.ofRatio false n 1).magnitude? with
  | some (m, d) => m / d
  | none => 0

/-- A numeral is within the range of floating point numbers: its significand times its power of ten, both
    taken as floating point numbers, does not round to infinity. -/
def inRange (written : Bytes) : Bool :=
  let s := significand written
  if s.value = 0 ∨ s.exponent ≤ 0 then true
  else if 308 < s.exponent then false
  else nearest s.value * nearest (Nat.pow 10 s.exponent.toNat) < 0x3fffffffffffff * Nat.pow 2 970

/-- A token stands for something: a quoted one for a text, a numeral for a number. -/
def Token.sound : Token → Bool
  | .quoted body => (text? body).isSome
  | .numeral written => inRange written
  | _ => true

/-- How many containers may lie in one another. -/
def maxDepth : Nat := 127

/-- No more containers than allowed lie in one another, when `open` of them are open already. -/
def shallow (opened : Nat) : List Token → Bool
  | [] => true
  | .openObject :: rest | .openArray :: rest => opened < maxDepth && shallow (opened + 1) rest
  | .closeObject :: rest | .closeArray :: rest => shallow (opened - 1) rest
  | _ :: rest => shallow opened rest

/-- The value of a text in which every literal is sound and containers are not too deep. -/
def sound? (text : Bytes) : Option Json := do
  let tokens ← tokens? text
  if tokens.all Token.sound && shallow 0 tokens then ofTokens? tokens else none

/-- The value of a text whose literals may be unsound where nobody asks for them. -/
def value? (text : Bytes) : Option Json := do
  ofTokens? (← tokens? text)

end Lockstep.Json
