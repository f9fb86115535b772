/-!
# Durations as text

A duration is shown in seconds, or in milliseconds when it is shorter than one
second, with as many decimals as it needs.
-/
namespace Lockstep.Text

/-- The three decimals of a number of thousandths. -/
def thousandths (n : Nat) : List Char :=
  let digits := Nat.toDigits 10 n
  List.replicate (3 - digits.length) '0' ++ digits

def duration (milliseconds : Nat) : String :=
  if milliseconds = 0 then "0ns"
  else if milliseconds < 1000 then toString milliseconds ++ "ms"
  else
    let decimals := ((thousandths (milliseconds % 1000)).reverse.dropWhile (· = '0')).reverse
    toString (milliseconds / 1000) ++ String.ofList (if decimals.isEmpty then [] else '.' :: decimals) ++ "s"

end Lockstep.Text
