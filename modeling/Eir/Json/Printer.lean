import Eir.Json.Basic

/-!
# JSON text

The two written forms of a JSON value: `compact`, without any blank, and
`pretty`, one member or item a line and two blanks of indentation a level.
-/

namespace Eir.Json

/-- A lower-case hexadecimal digit. -/
def hexDigit (n : Nat) : Char := Nat.digitChar n

/-- A character as it stands between quotes. -/
def escapeChar (c : Char) : List Char :=
  if c = '"' then ['\\', '"']
  else if c = '\\' then ['\\', '\\']
  else if c = '\n' then ['\\', 'n']
  else if c = '\r' then ['\\', 'r']
  else if c = '\t' then ['\\', 't']
  else if c.toNat = 8 then ['\\', 'b']
  else if c.toNat = 12 then ['\\', 'f']
  else if c.toNat < 0x20 then
    ['\\', 'u', '0', '0', hexDigit (c.toNat / 16), hexDigit (c.toNat % 16)]
  else [c]

/-- A text in quotes. -/
def quoted (s : String) : String :=
  String.ofList ('"' :: s.toList.flatMap escapeChar ++ ['"'])

/-- An integer in decimal. -/
def number (n : Int) : String := toString n

mutual

/-- The value on one line, without blanks. -/
def compact : Json → String
  | null => "null"
  | bool b => if b then "true" else "false"
  | num n => number n
  | str s => quoted s
  | arr xs => "[" ++ ",".intercalate (compactItems xs) ++ "]"
  | obj ms => "\x7b" ++ ",".intercalate (compactMembers ms) ++ "\x7d"

/-- Each item on one line. -/
def compactItems : List Json → List String
  | [] => []
  | x :: xs => compact x :: compactItems xs

/-- Each member on one line. -/
def compactMembers : List (String × Json) → List String
  | [] => []
  | (k, v) :: ms => (quoted k ++ ":" ++ compact v) :: compactMembers ms

end

/-- The line break before something at `depth`. -/
def lineBreak (depth : Nat) : String :=
  String.ofList ('\n' :: List.replicate (2 * depth) ' ')

/-- Brackets around items, each on a line of its own; nothing between the brackets of none. -/
def bracketed (left right : String) (depth : Nat) : List String → String
  | [] => left ++ right
  | items =>
    left ++ lineBreak (depth + 1) ++ ("," ++ lineBreak (depth + 1)).intercalate items ++
      lineBreak depth ++ right

mutual

/-- The value spread over lines, as it stands at `depth`. -/
def spread (depth : Nat) : Json → String
  | null => "null"
  | bool b => if b then "true" else "false"
  | num n => number n
  | str s => quoted s
  | arr xs => bracketed "[" "]" depth (spreadItems (depth + 1) xs)
  | obj ms => bracketed "\x7b" "\x7d" depth (spreadMembers (depth + 1) ms)

/-- Each item spread over lines. -/
def spreadItems (depth : Nat) : List Json → List String
  | [] => []
  | x :: xs => spread depth x :: spreadItems depth xs

/-- Each member spread over lines. -/
def spreadMembers (depth : Nat) : List (String × Json) → List String
  | [] => []
  | (k, v) :: ms => (quoted k ++ ": " ++ spread depth v) :: spreadMembers depth ms

end

/-- The value spread over lines, without a final line break. -/
def pretty (j : Json) : String := spread 0 j

end Eir.Json
