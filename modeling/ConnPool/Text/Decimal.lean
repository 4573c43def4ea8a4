import ConnPool.Time

/-!
# Reading counts

A count is written in decimal digits, with or without a plus sign in front, and fits in 64 bits.
-/

namespace ConnPool.Text

/-- The value of a digit. -/
def digitValue (c : Char) : Nat := c.toNat - '0'.toNat

/-- The number that a list of digits writes. -/
def digitsValue (s : List Char) : Nat := s.foldl (fun n c => n * 10 + digitValue c) 0

/-- The number written by a non-empty list of decimal digits. -/
def readDigits (s : List Char) : Option Nat :=
  if s ≠ [] ∧ s.all Char.isDigit then some (digitsValue s) else none

/-- The digits of a count: what follows an optional plus sign. -/
def unsigned : List Char → List Char
  | '+' :: rest => rest
  | s => s

/-- The count that a text writes, if it fits in 64 bits. -/
def readCount (s : List Char) : Option Nat :=
  (readDigits (unsigned s)).filter (· ≤ maxCount)

end ConnPool.Text
