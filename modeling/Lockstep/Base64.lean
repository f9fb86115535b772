import Lockstep.Text.Bytes

namespace Lockstep.Base64

/-- The letter of a number below 64. -/
def letter (n : Nat) : Char :=
  if n < 26 then Char.ofNat (n + 65)
  else if n < 52 then Char.ofNat (n + 71)
  else if n < 62 then Char.ofNat (n - 4)
  else if n = 62 then '+' else '/'

def value? (c : Char) : Option Nat :=
  let n := c.toNat
  if 65 ≤ n ∧ n ≤ 90 then some (n - 65)
  else if 97 ≤ n ∧ n ≤ 122 then some (n - 71)
  else if 48 ≤ n ∧ n ≤ 57 then some (n + 4)
  else if c = '+' then some 62
  else if c = '/' then some 63
  else none

/-- Four letters for three bytes. -/
def encodeList : Bytes → List Char
  | [] => []
  | [a] => [letter (a.toNat / 4), letter (a.toNat % 4 * 16), '=', '=']
  | [a, b] => [letter (a.toNat / 4), letter (a.toNat % 4 * 16 + b.toNat / 16), letter (b.toNat % 16 * 4), '=']
  | a :: b :: c :: rest =>
    letter (a.toNat / 4) :: letter (a.toNat % 4 * 16 + b.toNat / 16) :: letter (b.toNat % 16 * 4 + c.toNat / 64) ::
      letter (c.toNat % 64) :: encodeList rest

def encode (b : Bytes) : String :=
  String.ofList (encodeList b)

/-- One byte from two letters, the second of which has four bits to spare. -/
def oneByte? (a b : Char) : Option Bytes := do
  let a ← value? a
  let b ← value? b
  if b % 16 = 0 then some [UInt8.ofNat (a * 4 + b / 16)] else none

/-- Two bytes from three letters, the third of which has two bits to spare. -/
def twoBytes? (a b c : Char) : Option Bytes := do
  let a ← value? a
  let b ← value? b
  let c ← value? c
  if c % 4 = 0 then some [UInt8.ofNat (a * 4 + b / 16), UInt8.ofNat (b % 16 * 16 + c / 4)] else none

def threeBytes? (a b c d : Char) : Option Bytes := do
  let a ← value? a
  let b ← value? b
  let c ← value? c
  let d ← value? d
  some [UInt8.ofNat (a * 4 + b / 16), UInt8.ofNat (b % 16 * 16 + c / 4), UInt8.ofNat (c % 4 * 64 + d)]

/-- Reads the rest of a text; the bytes read before it are kept last first. -/
def decodeAfter (read : Bytes) : List Char → Option Bytes
  | [] => some read.reverse
  | [a, b, '=', '='] => (oneByte? a b).map fun bytes => read.reverse ++ bytes
  | [a, b, c, '='] => (twoBytes? a b c).map fun bytes => read.reverse ++ bytes
  | a :: b :: c :: d :: rest =>
    match threeBytes? a b c d with
    | some bytes => decodeAfter (bytes.reverse ++ read) rest
    | none => none
  | _ => none

def decode? (s : String) : Option Bytes :=
  decodeAfter [] s.toList

end Lockstep.Base64
