import Eir.Text.Blank
import Eir.Text.Digits

/-!
# Dates

Days of the Gregorian calendar, written `2026-02-03`.
-/

namespace Eir

/-- A day. -/
structure Date where
  year : Int
  month : Nat
  day : Nat
  deriving DecidableEq, Repr, Inhabited

namespace Date

def isLeap (year : Int) : Bool := year % 4 == 0 && (year % 100 != 0 || year % 400 == 0)

def daysInMonth (year : Int) (month : Nat) : Nat :=
  match month with
  | 2 => if isLeap year then 29 else 28
  | 4 | 6 | 9 | 11 => 30
  | _ => 31

/-- The day is in the calendar, and its year in the range that is kept. -/
def isValid (d : Date) : Bool :=
  -262143 ≤ d.year && d.year ≤ 262142 && 1 ≤ d.month && d.month ≤ 12 && 1 ≤ d.day &&
    d.day ≤ daysInMonth d.year d.month

/-- The number of the day in its year, from 1. -/
def ordinal (d : Date) : Nat :=
  (List.range (d.month - 1)).foldl (fun n m => n + daysInMonth d.year (m + 1)) 0 + d.day

/-- The day that is `days` days after the first of January 1970. Years are counted from the first
of March here, so that the day of a leap year is the last one of its year. -/
def ofDays (days : Int) : Date :=
  let shifted := days + 719468
  let cycle := shifted / 146097
  let inCycle := (shifted % 146097).toNat
  let year := (inCycle - inCycle / 1460 + inCycle / 36524 - inCycle / 146096) / 365
  let inYear := inCycle - (365 * year + year / 4 - year / 100)
  let month := (5 * inYear + 2) / 153
  let day := inYear - (153 * month + 2) / 5 + 1
  if month < 10 then ⟨cycle * 400 + year, month + 3, day⟩
  else ⟨cycle * 400 + year + 1, month - 9, day⟩

/-- The written form. A year of other than four digits has its sign. -/
def text (d : Date) : String :=
  let year :=
    if 0 ≤ d.year && d.year ≤ 9999 then Text.zeroPadded 4 d.year.natAbs
    else (if d.year < 0 then "-" else "+") ++ Text.zeroPadded 4 d.year.natAbs
  year ++ "-" ++ Text.zeroPadded 2 d.month ++ "-" ++ Text.zeroPadded 2 d.day

/-- Reads digits, at most `most` of them and at least one. -/
def number? (most : Nat) (cs : List Char) : Option (Nat × List Char) :=
  let digits := (cs.takeWhile Char.isDigit).take most
  if digits.isEmpty then none
  else some (digits.foldl (fun n c => 10 * n + (c.toNat - 48)) 0, cs.drop digits.length)

/-- Drops blanks. -/
def skipBlanks (cs : List Char) : List Char := cs.dropWhile Text.isBlank

/-- Reads a year. One with a sign may have any number of digits. -/
def year? (cs : List Char) : Option (Int × List Char) :=
  match cs with
  | '-' :: cs => (number? cs.length cs).map fun (n, rest) => (-(n : Int), rest)
  | '+' :: cs => (number? cs.length cs).map fun (n, rest) => ((n : Int), rest)
  | cs => (number? 4 cs).map fun (n, rest) => ((n : Int), rest)

/-- Reads a hyphen and a number of two digits at most. Blanks around them do not count. -/
def part? (cs : List Char) : Option (Nat × List Char) :=
  match skipBlanks cs with
  | '-' :: cs => number? 2 (skipBlanks cs)
  | _ => none

/-- Reads a written day of the calendar. -/
def ofText? (s : String) : Option Date := do
  let (year, rest) ← year? (skipBlanks s.toList)
  let (month, rest) ← part? rest
  let (day, rest) ← part? rest
  let date : Date := ⟨year, month, day⟩
  if (skipBlanks rest).isEmpty && date.isValid then some date else none

end Date

end Eir
