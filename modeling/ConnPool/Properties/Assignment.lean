import ConnPool.Properties.Parts
import ConnPool.Settings
import ConnPool.Target
import ConnPool.Text.Decimal
import ConnPool.Text.Lowercase

/-!
# Assignments

A part of a property text assigns one setting: `key = value`. Keys are compared in lowercase, a key
that begins with `driver.` names a property of the database driver, and a key that is not known
assigns nothing. `Assignment.read` turns a part into the assignment it writes, and
`Assignment.apply` carries it out; reading does not depend on what other parts say.
-/

namespace ConnPool.Properties

/-- One setting and the value it is given. -/
inductive Assignment
  | url (value : String)
  | username (value : String)
  | password (value : String)
  | autoCommit (value : Bool)
  | networkTimeout (value : Span)
  | isolation (value : Isolation)
  | driverProperty (name value : String)
  | maxActive (value : Nat)
  | maxIdle (value : Nat)
  | checkoutTimeout (value : Span)
  | waitTimeout (value : Span)
  | badTolerance (value : Nat)
  | pingEnabled (value : Bool)
  | pingQuery (value : String)
  | pingThreshold (value : Span)
  | indefiniteWait (value : Bool)
  /-- A key that stands for no setting. -/
  | unknown (key : String)
  deriving DecidableEq, Repr

/-- What a text describes: a target and the settings of a pool on it. -/
structure Source where
  target : Target := {}
  settings : Settings := {}
  deriving DecidableEq

instance : Inhabited Source := ⟨{}⟩

/-- Carry out an assignment. -/
def Assignment.apply (s : Source) : Assignment → Source
  | url v => { s with target.url := v }
  | username v => { s with target.username := some v }
  | password v => { s with target.password := some v }
  | autoCommit v => { s with target.autoCommit := some v }
  | networkTimeout v => { s with target.networkTimeout := some v }
  | isolation v => { s with target.isolation := some v }
  | driverProperty n v => { s with target.driverProperties := s.target.driverProperties.insert n v }
  | maxActive v => { s with settings.maxActive := v }
  | maxIdle v => { s with settings.maxIdle := v }
  | checkoutTimeout v => { s with settings.checkoutTimeout := v }
  | waitTimeout v => { s with settings.waitTimeout := v }
  | badTolerance v => { s with settings.badTolerance := v }
  | pingEnabled v => { s with settings.pingEnabled := v }
  | pingQuery v => { s with settings.pingQuery := v }
  | pingThreshold v => { s with settings.pingThreshold := v }
  | indefiniteWait v => { s with settings.indefiniteWait := v }
  | unknown _ => s

/-! ## Values -/

/-- The truth value that a text writes, in letters of any case. -/
def truth? (value : String) : Option Bool :=
  match Text.lowered value with
  | "true" | "yes" | "1" => some true
  | "false" | "no" | "0" => some false
  | _ => none

/-- The count that a text writes. -/
def count? (value : String) : Option Nat := Text.readCount value.toList

/-- The span that a text writes as a count of milliseconds. -/
def millis? (value : String) : Option Span := (count? value).map Span.ofMillis

/-- Read the value of a key, or say which value of which key cannot be read. -/
def valueOf {α : Type} (read : String → Option α) (key value : String) :
    Except Misconfiguration α :=
  match read value with
  | some a => .ok a
  | none => .error (.badValue key value)

/-! ## Reading -/

/-- What the key of a driver property begins with. -/
def driverMark : String := "driver."

/-- The name of the driver property that a key stands for. -/
def driverName? (key : String) : Option String :=
  (driverMark.toList.isPrefixOf? key.toList).map String.ofList

/-- The assignment that a key in lowercase and a value write. -/
def Assignment.ofKey (key value : String) : Except Misconfiguration Assignment :=
  match driverName? key with
  | some name => .ok (driverProperty name value)
  | none =>
    match key with
    | "url" => .ok (url value)
    | "username" | "user" => .ok (username value)
    | "password" => .ok (password value)
    | "auto_commit" | "autocommit" => (valueOf truth? key value).map autoCommit
    | "network_timeout_ms" => (valueOf millis? key value).map networkTimeout
    | "isolation" | "default_isolation_level" =>
      match Isolation.parse? value with
      | some level => .ok (isolation level)
      | none => .error (.badIsolation value)
    | "max_active" => (valueOf count? key value).map maxActive
    | "max_idle" => (valueOf count? key value).map maxIdle
    | "checkout_timeout_ms" => (valueOf millis? key value).map checkoutTimeout
    | "wait_timeout_ms" => (valueOf millis? key value).map waitTimeout
    | "bad_connection_tolerance" => (valueOf count? key value).map badTolerance
    | "ping_enabled" => (valueOf truth? key value).map pingEnabled
    | "ping_query" => .ok (pingQuery value)
    | "ping_threshold_ms" => (valueOf millis? key value).map pingThreshold
    | "indefinite_wait" => (valueOf truth? key value).map indefiniteWait
    | _ => .ok (unknown key)

/-- Cut a part at its first equals sign. -/
def cutAtEquals (part : List Char) : Option (List Char × List Char) :=
  match part.dropWhile (· != '=') with
  | [] => none
  | _ :: value => some (part.takeWhile (· != '='), value)

/-- The assignment that a part writes, if it is not blank. -/
def Assignment.read (part : List Char) : Except Misconfiguration (Option Assignment) :=
  let part := Text.trim part
  if part.isEmpty then .ok none
  else match cutAtEquals part with
    | none => .error (.notAnAssignment (String.ofList part))
    | some (key, value) =>
      (ofKey (String.ofList (Text.lower (Text.trim key)))
        (String.ofList (stripQuotes (Text.trim value)))).map some

end ConnPool.Properties
