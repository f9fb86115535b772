/-!
# Binary floating point

Numbers of 64 bits as exact dyadic fractions: a sign, a mantissa below 2^53 and
an exponent of two. Reading rounds to the nearest such number, ties to the even
mantissa; writing chooses the fewest digits that read back.
-/
namespace Lockstep

inductive Binary64 where
  | nan
  | infinite (negative : Bool)
  /-- The number `mantissa * 2^exponent`, below zero when `negative`. -/
  | finite (negative : Bool) (mantissa : Nat) (exponent : Int)
  deriving DecidableEq, Repr

namespace Binary64

/-- Every mantissa is below this, which is 2^53. -/
def mantissaLimit : Nat := 0x20000000000000

/-- The quotient rounded to the nearest integer, ties to the even one. -/
def roundDiv (num den : Nat) : Nat :=
  let q := num / den
  let r := num % den
  if 2 * r < den then q else if den < 2 * r then q + 1 else q + q % 2

def bits (n : Nat) : Nat :=
  if n = 0 then 0 else Nat.log2 n + 1

/-- `num / den * 2^shift` as a quotient of naturals. -/
def scaled (num den : Nat) (shift : Int) : Nat × Nat :=
  if 0 ≤ shift then (num * Nat.pow 2 shift.toNat, den) else (num, den * Nat.pow 2 (-shift).toNat)

/-- The least exponent whose mantissa for `num / den` stays below 2^53, but never below -1074. -/
def exponentFor (num den : Nat) : Int :=
  let guess : Int := max (-1074) ((bits num : Int) - bits den - 53)
  let (n, d) := scaled num den (-guess)
  if n / d < mantissaLimit then guess else guess + 1

def ofRatio (negative : Bool) (num den : Nat) : Binary64 :=
  if num = 0 then .finite negative 0 (-1074)
  else
    let e := exponentFor num den
    let (n, d) := scaled num den (-e)
    let m := roundDiv n d
    let (m, e) := if m = mantissaLimit then (mantissaLimit / 2, e + 1) else (m, e)
    if 971 < e then .infinite negative else .finite negative m e

/-- The nearest number to `digits * 10^exponent`, where no more digits than `places` stand before the point
    of the digits. -/
def ofDecimal (negative : Bool) (digits : Nat) (places : Nat) (exponent : Int) : Binary64 :=
  if digits = 0 then .finite negative 0 (-1074)
  else if exponent > 400 then .infinite negative
  else if exponent + places < -400 then .finite negative 0 (-1074)
  else if 0 ≤ exponent then ofRatio negative (digits * Nat.pow 10 exponent.toNat) 1
  else ofRatio negative digits (Nat.pow 10 (-exponent).toNat)

/-- The magnitude as a quotient; what is not finite has none. -/
def magnitude? : Binary64 → Option (Nat × Nat)
  | .finite _ m e => some (scaled m 1 e)
  | _ => none

def isNegative : Binary64 → Bool
  | .nan => false
  | .infinite s => s
  | .finite s _ _ => s

/-- The nearest natural number to the magnitude, halves away from zero; at most `limit`. -/
def roundedMagnitude (limit : Nat) : Binary64 → Nat
  | .nan => 0
  | .infinite _ => limit
  | .finite _ m e =>
    let (n, d) := scaled m 1 e
    min limit ((2 * n + d) / (2 * d))

/-- `digits * 10^scale` reads back as the number of mantissa `m` and exponent `e`: it lies between the middles
    to the neighbours, which count when the mantissa is even. -/
def readsBack (m : Nat) (e : Int) (digits : Nat) (scale : Int) : Bool :=
  -- everything in quarters of the last binary place
  let (n, d) := scaled digits 1 (2 - e)
  let (n, d) := if 0 ≤ scale then (n * Nat.pow 10 scale.toNat, d) else (n, d * Nat.pow 10 (-scale).toNat)
  let upper := 4 * m + 2
  let lower := if m = mantissaLimit / 2 ∧ -1074 < e then 4 * m - 1 else 4 * m - 2
  if m % 2 = 0 then lower * d ≤ n && n ≤ upper * d else lower * d < n && n < upper * d

/-- The multiples of `10^scale` next to the number, the nearer one first. -/
def neighbours (m : Nat) (e : Int) (scale : Int) : List Nat :=
  let (n, d) := scaled m 1 e
  let (n, d) := if 0 ≤ scale then (n, d * Nat.pow 10 scale.toNat) else (n * Nat.pow 10 (-scale).toNat, d)
  let q := n / d
  if 2 * (n % d) ≤ d then [q, q + 1] else [q + 1, q]

/-- The first scale, going down from `scale`, on which a multiple reads back. -/
def shortestFrom (m : Nat) (e : Int) (scale : Int) : Nat → Nat × Int
  | 0 => ((neighbours m e scale).headD 0, scale)
  | steps + 1 =>
    match (neighbours m e scale).find? fun digits => readsBack m e digits scale with
    | some digits => (digits, scale)
    | none => shortestFrom m e (scale - 1) steps

/-- The fewest digits that read back as the number, and the power of ten they count. -/
def shortest (m : Nat) (e : Int) : Nat × Int :=
  if m = 0 then (0, 0)
  else
    let (n, d) := scaled m 1 e
    -- the number of digits before the point, or minus the zeros after it, up to one
    let top : Int := if d ≤ n then ((Nat.toDigits 10 (n / d)).length : Int) else 1 - (Nat.toDigits 10 (d / n)).length
    shortestFrom m e (top + 1) 20

/-- Digits without the zeros at their end. -/
def dropZeros (digits : Nat) (scale : Int) : Nat → Nat × Int
  | 0 => (digits, scale)
  | steps + 1 => if digits ≠ 0 ∧ digits % 10 = 0 then dropZeros (digits / 10) (scale + 1) steps else (digits, scale)

/-- `digits * 10^scale` written out with a decimal point where one is needed. -/
def positional (digits : Nat) (scale : Int) : String :=
  let written := Nat.toDigits 10 digits
  if digits = 0 then "0"
  else if 0 ≤ scale then String.ofList (written ++ List.replicate scale.toNat '0')
  else
    let places := (-scale).toNat
    let padded := List.replicate (places + 1 - written.length) '0' ++ written
    let whole := padded.length - places
    String.ofList (padded.take whole ++ '.' :: padded.drop whole)

/-- The fewest digits that read back, in positional notation at every size. -/
def toText : Binary64 → String
  | .nan => "NaN"
  | .infinite s => if s then "-inf" else "inf"
  | .finite s m e =>
    let (digits, scale) := shortest m e
    let (digits, scale) := dropZeros digits scale 20
    (if s then "-" else "") ++ positional digits scale

end Binary64
end Lockstep
