import ConnPool.Text.Blank

/-!
# Isolation levels

How far a transaction is kept apart from the others, and the names that callers may write for it.
-/

namespace ConnPool

/-- The isolation level of a transaction. -/
inductive Isolation
  | none
  | readUncommitted
  | readCommitted
  | repeatableRead
  | serializable
  | snapshot
  deriving DecidableEq, Repr, Inhabited

namespace Isolation

/-- The name of a level as it is reported. -/
def name : Isolation → String
  | none => "None"
  | readUncommitted => "ReadUncommitted"
  | readCommitted => "ReadCommitted"
  | repeatableRead => "RepeatableRead"
  | serializable => "Serializable"
  | snapshot => "Snapshot"

/-- All levels. -/
def all : List Isolation :=
  [none, readUncommitted, readCommitted, repeatableRead, serializable, snapshot]

theorem mem_all (l : Isolation) : l ∈ all := by cases l <;> simp [all]

/-- The level with a given reported name. -/
def ofName? (s : String) : Option Isolation := all.find? fun l => l.name == s

theorem ofName?_name (l : Isolation) : ofName? l.name = some l := by cases l <;> decide

/-- A separator between the words of a level's name. -/
def isSeparator (c : Char) : Bool := c == '_' || c == '-' || c == ' '

/-- What is compared of a written name: its letters in lowercase, without separators. -/
def key (s : List Char) : List Char :=
  ((Text.trim s).filter fun c => !isSeparator c).map Char.toLower

/-- The keys under which the levels are known. -/
def keys : List (String × Isolation) := [
  ("none", none), ("readuncommitted", readUncommitted), ("readcommitted", readCommitted),
  ("repeatableread", repeatableRead), ("serializable", serializable), ("snapshot", snapshot),
  ("sqlserversnapshot", snapshot)]

/-- The level that a caller names, whatever the case of the letters and the separators between the
words. -/
def parse? (s : String) : Option Isolation :=
  (keys.find? fun k => k.1.toList == key s.toList).map (·.2)

end Isolation

end ConnPool
