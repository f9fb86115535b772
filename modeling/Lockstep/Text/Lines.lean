/-!
# Lines

The lines of a text: a line ends at a line feed, which may follow a carriage
return, and a line feed at the end of the text opens no further line.
-/
namespace Lockstep.Text

/-- Cuts at every line feed; the last piece is what follows the last of them. -/
def splitLines (s : List Char) : List (List Char) :=
  s.foldr (fun c lines =>
    if c = '\n' then [] :: lines
    else match lines with
      | [] => [[c]]
      | line :: lines => (c :: line) :: lines) [[]]

/-- A line without the carriage return that stands before its line feed. -/
def dropReturn (line : List Char) : List Char :=
  if line.getLast? = some '\r' then line.dropLast else line

def lines (s : String) : List String :=
  match (splitLines s.toList).reverse with
  | [] => []
  | last :: before =>
    let whole := before.reverse.map dropReturn
    (if last.isEmpty then whole else whole ++ [last]).map String.ofList

end Lockstep.Text
