import ConnPool.Text.Hidden

/-!
# Quoted texts and records

How values are written for a reader who debugs: a text stands in double quotes with its hidden
characters escaped, an optional value is `None` or `Some(..)`, and a record is its name and its
fields in order.
-/

namespace ConnPool.Text

/-- The digits of a number in base 16, without leading zeros. -/
def hexDigits (n : Nat) : List Char := Nat.toDigits 16 n

/-- A character as it stands in a quoted text. -/
def escape (c : Char) : List Char :=
  if c = '\x00' then ['\\', '0']
  else if c = '\t' then ['\\', 't']
  else if c = '\n' then ['\\', 'n']
  else if c = '\r' then ['\\', 'r']
  else if c = '"' then ['\\', '"']
  else if c = '\\' then ['\\', '\\']
  else if isHidden c then ['\\', 'u', '\x7b'] ++ hexDigits c.toNat ++ ['\x7d']
  else [c]

/-- A text in double quotes. -/
def quoted (s : String) : String := String.ofList ('"' :: s.toList.flatMap escape ++ ['"'])

/-- An optional value. -/
def optional {α : Type} (write : α → String) : Option α → String
  | none => "None"
  | some a => "Some(" ++ write a ++ ")"

/-- A truth value. -/
def truth (b : Bool) : String := if b then "true" else "false"

/-- A record with named fields. -/
def record (name : String) (fields : List (String × String)) : String :=
  name ++ " \x7b " ++ ", ".intercalate (fields.map fun f => f.1 ++ ": " ++ f.2) ++ " \x7d"

/-- A map from texts to texts. -/
def dictionary (entries : List (String × String)) : String :=
  "\x7b" ++ ", ".intercalate (entries.map fun e => quoted e.1 ++ ": " ++ quoted e.2) ++ "\x7d"

end ConnPool.Text
