import Lockstep.Json.Literal

/-!
# Writing JSON

Messages are written without blanks and with their members in a fixed order. A
quoted text escapes the quote, the backslash and the control characters, and
nothing else.
-/
namespace Lockstep.Json.Print

/-- The four hexadecimal digits of a control character. -/
def controlDigits (n : Nat) : List Char :=
  ['0', '0'] ++ (if n < 16 then ['0'] else []) ++ Nat.toDigits 16 n

/-- One character between quotes. -/
def escapeChar (c : Char) : List Char :=
  if c = '"' then ['\\', '"']
  else if c = '\\' then ['\\', '\\']
  else if c = '\x08' then ['\\', 'b']
  else if c = '\x0c' then ['\\', 'f']
  else if c = '\n' then ['\\', 'n']
  else if c = '\r' then ['\\', 'r']
  else if c = '\t' then ['\\', 't']
  else if c.toNat < 32 then ['\\', 'u'] ++ controlDigits c.toNat
  else [c]

def text (s : String) : String :=
  String.ofList ('"' :: s.toList.flatMap escapeChar ++ ['"'])

def natural (n : Nat) : String :=
  String.ofList (Nat.toDigits 10 n)

def truth (b : Bool) : String :=
  if b then "true" else "false"

/-- The members of an object, each a name and a written value. -/
def members : List (String × String) → String
  | [] => ""
  | [(name, value)] => text name ++ ":" ++ value
  | (name, value) :: rest => text name ++ ":" ++ value ++ "," ++ members rest

def object (fields : List (String × String)) : String :=
  "\x7b" ++ members fields ++ "\x7d"

end Lockstep.Json.Print
