/-!
# Blank characters and trimming

The blank characters are those that Unicode counts as white space. Trimming removes them at both
ends of a text and nowhere else.
-/

namespace ConnPool.Text

/-- White space in the sense of Unicode: the property `White_Space`. -/
def isBlank (c : Char) : Bool :=
  let n := c.toNat
  (0x9 ≤ n && n ≤ 0xD) || n == 0x20 || n == 0x85 || n == 0xA0 || n == 0x1680 ||
    (0x2000 ≤ n && n ≤ 0x200A) || n == 0x2028 || n == 0x2029 || n == 0x202F || n == 0x205F ||
    n == 0x3000

/-- A text without the blanks in front. -/
def trimStart (s : List Char) : List Char := s.dropWhile isBlank

/-- A text without the blanks behind. -/
def trimEnd (s : List Char) : List Char := (s.reverse.dropWhile isBlank).reverse

/-- A text without the blanks at either end. -/
def trim (s : List Char) : List Char := trimEnd (trimStart s)

/-- A string without the blanks at either end. -/
def trimmed (s : String) : String := String.ofList (trim s.toList)

end ConnPool.Text
