import Lockstep.Binary64

/-!
# Numbers as they are written

The texts that stand for a floating point number or for an integer, alone and
without blanks around them. A sign may stand in front, plus as well as minus.
-/
namespace Lockstep

def isDecimalDigit (c : Char) : Bool :=
  '0' ≤ c && c ≤ '9'

def decimalValue (digits : List Char) : Nat :=
  digits.foldl (fun n c => 10 * n + (c.toNat - 48)) 0

/-- The sign of a number, and the text after it. -/
def splitSign : List Char → Bool × List Char
  | '-' :: rest => (true, rest)
  | '+' :: rest => (false, rest)
  | s => (false, s)

/-- A natural number that is not larger than the limit; a plus sign may stand in front. -/
def naturalText? (limit : Nat) (s : String) : Option Nat :=
  let (negative, digits) := splitSign s.toList
  if negative ∨ digits.isEmpty ∨ !digits.all isDecimalDigit then none
  else
    let n := decimalValue digits
    if n ≤ limit then some n else none

def integerText? (s : String) : Option Int :=
  let (negative, digits) := splitSign s.toList
  if digits.isEmpty ∨ !digits.all isDecimalDigit then none
  else
    let n := decimalValue digits
    if negative then (if n ≤ 0x8000000000000000 then some (-(n : Int)) else none)
    else (if n < 0x8000000000000000 then some n else none)

namespace Binary64

/-- Letters that are compared without their case. -/
def lowerAscii (s : List Char) : List Char :=
  s.map Char.toLower

/-- An exponent after its letter; one too large to matter counts as the bound. -/
def exponent? (s : List Char) : Option Int :=
  let (negative, digits) := splitSign s
  if digits.isEmpty ∨ !digits.all isDecimalDigit then none
  else
    let n := digits.foldl (fun (n : Nat) c => min 1000000000000 (10 * n + (c.toNat - 48))) 0
    some (if negative then -(n : Int) else n)

/-- Digits, perhaps with a point among them or at an end, and perhaps an exponent. -/
def decimal? (negative : Bool) (s : List Char) : Option Binary64 := do
  let whole := s.takeWhile isDecimalDigit
  let rest := s.dropWhile isDecimalDigit
  let (fraction, rest) :=
    match rest with
    | '.' :: rest => (rest.takeWhile isDecimalDigit, rest.dropWhile isDecimalDigit)
    | _ => ([], rest)
  let exponent ← match rest with
    | [] => some 0
    | c :: rest => if c = 'e' ∨ c = 'E' then exponent? rest else none
  if whole.isEmpty ∧ fraction.isEmpty then none
  else
    some (ofDecimal negative (decimalValue (whole ++ fraction)) (whole ++ fraction).length
      (exponent - fraction.length))

/-- Reads a number; infinity and the number that is none are written as words. -/
def parse? (s : String) : Option Binary64 :=
  let (negative, rest) := splitSign s.toList
  let word := String.ofList (lowerAscii rest)
  if word = "inf" ∨ word = "infinity" then some (.infinite negative)
  else if word = "nan" then some .nan
  else decimal? negative rest

end Binary64
end Lockstep
