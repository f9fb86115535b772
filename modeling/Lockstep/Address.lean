import Lockstep.Text.Bytes

/-!
# Socket addresses

An IP address and a port. Version 4 is four decimal numbers; version 6, which
stands in brackets here, is eight groups of hexadecimal digits, of which the
longest run of zeros is left out when written.
-/
namespace Lockstep

inductive Address where
  | v4 (a b c d : Nat) (port : Nat)
  /-- Eight groups of 16 bits, and the zone that a link-local address belongs to. -/
  | v6 (groups : List Nat) (zone : Nat) (port : Nat)
  deriving DecidableEq, Repr

namespace Address

def isDecimal (c : Char) : Bool :=
  '0' ≤ c && c ≤ '9'

/-- The value of a digit in any base up to sixteen. -/
def digit (c : Char) : Nat :=
  if isDecimal c then c.toNat - 48 else if 'a' ≤ c then c.toNat - 87 else c.toNat - 55

def isHex (c : Char) : Bool :=
  isDecimal c || ('a' ≤ c && c ≤ 'f') || ('A' ≤ c && c ≤ 'F')

def valueIn (base : Nat) (digits : List Char) : Nat :=
  digits.foldl (fun n c => base * n + digit c) 0

/-- A number at the start of a text: one digit or more, up to a limit; the rest follows. -/
def number? (limit : Nat) (s : List Char) : Option (Nat × List Char) :=
  let digits := s.takeWhile isDecimal
  let n := valueIn 10 digits
  if digits.isEmpty ∨ limit < n then none else some (n, s.dropWhile isDecimal)

/-- One of the four numbers of version 4: at most three digits, and no zero in front. -/
def octet? (s : List Char) : Option (Nat × List Char) :=
  let digits := s.takeWhile isDecimal
  if 3 < digits.length ∨ (1 < digits.length ∧ digits.head? = some '0') then none else number? 255 s

/-- What follows a certain character. -/
def after? (c : Char) : List Char → Option (List Char)
  | [] => none
  | d :: rest => if c = d then some rest else none

/-- The four numbers of version 4 at the start of a text. -/
def octets? (s : List Char) : Option ((Nat × Nat × Nat × Nat) × List Char) := do
  let (a, s) ← octet? s
  let (b, s) ← octet? (← after? '.' s)
  let (c, s) ← octet? (← after? '.' s)
  let (d, s) ← octet? (← after? '.' s)
  some ((a, b, c, d), s)

def port? (s : List Char) : Option Nat := do
  let (n, rest) ← number? 65535 (← after? ':' s)
  if rest.isEmpty then some n else none

/-- One group of version 6: one to four hexadecimal digits. -/
def group? (s : List Char) : Option (Nat × List Char) :=
  let digits := s.takeWhile isHex
  if digits.isEmpty ∨ 4 < digits.length then none else some (valueIn 16 digits, s.dropWhile isHex)

/-- Two groups written as an address of version 4. -/
def mapped? (s : List Char) : Option (List Nat × List Char) := do
  let ((a, b, c, d), rest) ← octets? s
  some ([256 * a + b, 256 * c + d], rest)

/-- Groups of version 6 and what follows them. -/
structure Groups where
  values : List Nat := []
  /-- The last two were written as an address of version 4. -/
  mapped : Bool := false
  rest : List Char

/-- At most `room` groups with colons between them, as far as they go. `first` says that no colon stands in
    front. An address of version 4 takes the place of two groups and is the last. -/
def groups (first : Bool) : Nat → List Char → Groups
  | 0, s => { rest := s }
  | room + 1, s =>
    match if first then some s else after? ':' s with
    | none => { rest := s }
    | some t =>
      match if 1 ≤ room then mapped? t else none with
      | some (pair, rest) => ⟨pair, true, rest⟩
      | none =>
        match group? t with
        | none => { rest := s }
        | some (g, rest) =>
          let more := groups false room rest
          { more with values := g :: more.values }

/-- The eight groups at the start of a text; two colons stand for one zero group or more. -/
def allGroups? (s : List Char) : Option (List Nat × List Char) :=
  let front := groups true 8 s
  if front.values.length = 8 then some (front.values, front.rest)
  else if front.mapped then none
  else
    match front.rest with
    | ':' :: ':' :: rest =>
      let back := groups true (7 - front.values.length) rest
      let zeros := 8 - front.values.length - back.values.length
      some (front.values ++ List.replicate zeros 0 ++ back.values, back.rest)
    | _ => none

/-- The zone of an address, if one is given. -/
def zone? (s : List Char) : Option (Nat × List Char) :=
  match s with
  | '%' :: rest => number? 0xffffffff rest
  | _ => some (0, s)

def v4? (s : List Char) : Option Address := do
  let ((a, b, c, d), rest) ← octets? s
  some (.v4 a b c d (← port? rest))

def v6? (s : List Char) : Option Address := do
  let (gs, rest) ← allGroups? (← after? '[' s)
  let (zone, rest) ← zone? rest
  some (.v6 gs zone (← port? (← after? ']' rest)))

/-- Reads an address; names of hosts are none. -/
def parse? (s : String) : Option Address :=
  (v4? s.toList).orElse fun _ => v6? s.toList

def hex (n : Nat) : String :=
  String.ofList (Nat.toDigits 16 n)

def colons (groups : List Nat) : String :=
  String.intercalate ":" (groups.map hex)

/-- The length of the run of zeros at the start. -/
def zeroRun (groups : List Nat) : Nat :=
  (groups.takeWhile (· = 0)).length

/-- Where the longest run of zeros starts, and its length; the first one of several. -/
def longestRun (groups : List Nat) : Nat × Nat :=
  (List.range groups.length).foldl (fun best i =>
    let run := zeroRun (groups.drop i)
    if best.2 < run then (i, run) else best) (0, 0)

def dotted (a b c d : Nat) : String :=
  toString a ++ "." ++ toString b ++ "." ++ toString c ++ "." ++ toString d

/-- The groups of an address of version 6; one that stands for an address of version 4 shows it. -/
def showGroups : List Nat → String
  | [0, 0, 0, 0, 0, 65535, ab, cd] => "::ffff:" ++ dotted (ab / 256) (ab % 256) (cd / 256) (cd % 256)
  | groups =>
    let (start, run) := longestRun groups
    if run < 2 then colons groups else colons (groups.take start) ++ "::" ++ colons (groups.drop (start + run))

def display : Address → String
  | .v4 a b c d port => dotted a b c d ++ ":" ++ toString port
  | .v6 groups zone port =>
    "[" ++ showGroups groups ++ (if zone = 0 then "" else "%" ++ toString zone) ++ "]:" ++ toString port

end Address
end Lockstep
