import ConnPool.Properties.Assignment

/-!
# Reading a property text

The parts of a text are read from left to right and carried out in that order, so the last
assignment to a setting wins. The first part that cannot be read decides the error, and the result
as a whole is checked at the end: there must be an url, and the settings must be fit for use.
-/

namespace ConnPool.Properties

/-- The keys without a meaning among the parts that are read, in order. The first part that cannot
be read is the last one looked at. -/
def unknownKeys : List (List Char) → List String
  | [] => []
  | part :: rest =>
    match Assignment.read part with
    | .error _ => []
    | .ok (some (.unknown key)) => key :: unknownKeys rest
    | .ok _ => unknownKeys rest

/-- Carry out what the parts write, on top of what was read before. -/
def carryOut (s : Source) : List (List Char) → Except Misconfiguration Source
  | [] => .ok s
  | part :: rest =>
    match Assignment.read part with
    | .error e => .error e
    | .ok none => carryOut s rest
    | .ok (some a) => carryOut (a.apply s) rest

/-- Pass a source that a pool can be built from. -/
def check (s : Source) : Except Misconfiguration Source :=
  if s.target.url = "" then .error .urlMissing
  else match s.settings.problem? with
    | some e => .error e
    | none => .ok s

/-- What reading a text yields: the keys that were passed over, and the source or what is wrong. -/
structure Reading where
  ignored : List String
  outcome : Except Misconfiguration Source

/-- Read a property text. -/
def read (text : String) : Reading :=
  match parts text.toList with
  | .error rest => ⟨[], .error (.unterminatedQuote (String.ofList rest))⟩
  | .ok ps => ⟨unknownKeys ps, (carryOut {} ps).bind check⟩

end ConnPool.Properties
