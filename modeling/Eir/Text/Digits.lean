/-!
# Digits

Reading the digits of a number in a base of up to sixteen, where letters stand
for the digits from ten on, in either case. Writing numbers, with leading zeros
up to a width, and filling columns with blanks. Widths count characters; a text
that is wider already is left alone.
-/

namespace Eir.Text

/-! ## Reading -/

/-- The value of a digit. -/
def digitValue? (base : Nat) (c : Char) : Option Nat :=
  let n := c.toNat
  let value :=
    if 48 ≤ n && n ≤ 57 then n - 48
    else if 97 ≤ n && n ≤ 102 then n - 87
    else if 65 ≤ n && n ≤ 70 then n - 55
    else base
  if value < base then some value else none

/-- The number that digits write. -/
def number? (base : Nat) (digits : List Char) : Option Nat :=
  if digits.isEmpty then none
  else digits.foldlM (fun n c => (digitValue? base c).map (base * n + ·)) 0

/-! ## Writing -/

/-- `s` behind enough copies of `fill` to reach `width` characters. -/
def padLeft (fill : Char) (width : Nat) (s : String) : String :=
  String.ofList (List.replicate (width - s.toList.length) fill) ++ s

/-- `s` before enough copies of `fill` to reach `width` characters. -/
def padRight (fill : Char) (width : Nat) (s : String) : String :=
  s ++ String.ofList (List.replicate (width - s.toList.length) fill)

/-- The decimal digits of `n`. -/
def decimal (n : Nat) : String := String.ofList (Nat.toDigits 10 n)

/-- The decimal digits of `n`, with zeros in front up to `width` digits. -/
def zeroPadded (width n : Nat) : String := padLeft '0' width (decimal n)

/-- The two lower-case hexadecimal digits of a byte. -/
def hexByte (b : UInt8) : String :=
  padLeft '0' 2 (String.ofList (Nat.toDigits 16 b.toNat))

/-- The bytes as lower-case hexadecimal digits. -/
def hex (bytes : List UInt8) : String :=
  String.join (bytes.map hexByte)

end Eir.Text
