/-!
# Blank characters

The characters that do not count at the ends of a text: those with the Unicode
property White_Space, and no others (no zero width space, no byte order mark).
-/
namespace Lockstep.Text

/-- The property White_Space. -/
def isBlank (c : Char) : Bool :=
  let n := c.toNat
  (9 ≤ n && n ≤ 13) || n == 0x20 || n == 0x85 || n == 0xA0 || n == 0x1680 || (0x2000 ≤ n && n ≤ 0x200A) ||
    n == 0x2028 || n == 0x2029 || n == 0x202F || n == 0x205F || n == 0x3000

def trimBlanks (s : List Char) : List Char :=
  ((s.dropWhile isBlank).reverse.dropWhile isBlank).reverse

/-- A text without the blanks at its ends. -/
def trim (s : String) : String :=
  String.ofList (trimBlanks s.toList)

/-- A text of blanks alone, the empty one included. -/
def isBlankText (s : String) : Bool :=
  s.toList.all isBlank

end Lockstep.Text
