import Lockstep.Settings.Value

/-!
# Places in a tree of settings

A path names a place: an entry of the root table, then entries and items further
down, such as `section.name[2]`. Names do not depend on case.
-/
namespace Lockstep.Settings

inductive Step where
  | entry (name : String)
  /-- An item of an array; a negative number counts from the end. -/
  | item (index : Int)
  deriving DecidableEq, Repr

/-- A place, from the root table down. -/
abbrev Path := List Step

namespace Path

/-- The characters of names. -/
def isNameChar (c : Char) : Bool :=
  ('a' ≤ c && c ≤ 'z') || ('A' ≤ c && c ≤ 'Z') || isDecimalDigit c || c = '_' || c = '-' || c = ' '

/-- A name at the start of a text, in lower case, and the rest. -/
def name? (s : List Char) : Option (String × List Char) :=
  let name := s.takeWhile isNameChar
  if name.isEmpty then none else some (String.ofList (name.map Char.toLower), s.dropWhile isNameChar)

def dropSpaces (s : List Char) : List Char :=
  s.dropWhile fun c => c = ' ' || c = '\t'

/-- An index up to its closing bracket, and the rest. -/
def index? (s : List Char) : Option (Int × List Char) := do
  let s := dropSpaces s
  let (negative, s) := match s with
    | '-' :: rest => (true, rest)
    | s => (false, s)
  let digits := s.takeWhile isDecimalDigit
  let n ← integerText? (String.ofList (if negative then '-' :: digits else digits))
  match dropSpaces (s.dropWhile isDecimalDigit) with
  | ']' :: rest => some (n, rest)
  | _ => none

/-- The steps after the first name. Every step takes at least one character, so the fuel is the text itself. -/
def steps? : Nat → List Char → Option Path
  | _, [] => some []
  | 0, _ :: _ => none
  | fuel + 1, c :: rest =>
    if c = '.' then do
      let (name, rest) ← name? rest
      return .entry name :: (← steps? fuel rest)
    else if c = '[' then do
      let (n, rest) ← index? rest
      return .item n :: (← steps? fuel rest)
    else none

def parse? (s : String) : Option Path := do
  let (name, rest) ← name? s.toList
  return .entry name :: (← steps? rest.length rest)

/-- Changes the item at an index. Items that are missing up to it are added as absent ones, at the end for an
    index from the front, in front for one from the end. -/
def setItem (index : Int) (f : Value → Value) (items : List Value) : List Value :=
  if 0 ≤ index then
    let i := index.toNat
    let items := items ++ List.replicate (i + 1 - items.length) .absent
    items.modify i f
  else
    let back := (-index).toNat
    if back ≤ items.length then items.modify (items.length - back) f
    else
      (List.replicate (back - items.length) Value.absent ++ items).modify 0 f

/-- Puts a value in a place: tables and arrays on the way are made, and replace what is in the way. -/
def set (value : Value) : Path → Value → Value
  | [], _ => value
  | .entry name :: rest, v => .table (Value.setEntry name (set value rest ((v.entry? name).getD .absent)) v.entries)
  | .item index :: rest, v => .array (setItem index (set value rest) v.items)

end Path
end Lockstep.Settings
