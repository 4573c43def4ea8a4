import ConnPool.Text.Blank

/-!
# The parts of a property text

A property text is a list of parts with a semicolon between two of them. A semicolon inside a
quoted value separates nothing. A quote, single or double, opens a quoted value only where the part
so far ends in an equals sign, blanks aside; the next quote of the same kind closes it. So quotes
inside a bare value are ordinary characters.
-/

namespace ConnPool.Properties

/-- A character that can open a quoted value. -/
def isQuote (c : Char) : Bool := c == '"' || c == '\''

/-- Whether a quoted value may open behind a part whose characters so far, last one first, are
`seen`. -/
def opensAfter (seen : List Char) : Bool := (seen.dropWhile Text.isBlank).head? == some '='

/-- Cut the rest of a text into parts. The characters of the current part so far, last one first,
are `seen`, and `quote` is the quote that is open. A text whose last quote stays open has no parts;
what is given back is the part that it opens in. -/
def partsFrom (seen : List Char) (quote : Option Char) :
    List Char → Except (List Char) (List (List Char))
  | [] =>
    match quote with
    | none => .ok [seen.reverse]
    | some _ => .error seen.reverse
  | c :: rest =>
    match quote with
    | some q => partsFrom (c :: seen) (if c = q then none else some q) rest
    | none =>
      if c = ';' then (partsFrom [] none rest).map (seen.reverse :: ·)
      else if isQuote c && opensAfter seen then partsFrom (c :: seen) (some c) rest
      else partsFrom (c :: seen) none rest

/-- The parts of a text, or the part in which a quote stays open. -/
def parts (text : List Char) : Except (List Char) (List (List Char)) := partsFrom [] none text

/-- A value without the quotes around it, if it stands in quotes. -/
def stripQuotes (value : List Char) : List Char :=
  match value with
  | q :: rest =>
    if isQuote q && rest.getLast? == some q then rest.dropLast else value
  | [] => []

end ConnPool.Properties
