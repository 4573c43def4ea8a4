import ConnPool.Isolation
import ConnPool.Time
import ConnPool.Text.Quoted

/-!
# Targets

A `Target` is what a pool connects to: an url, a login, properties for the database driver, and
the defaults that every new connection is set to. Its `Endpoint` is the part that tells which
connections may be exchanged for one another: the url and the login.
-/

namespace ConnPool

/-! ## Driver properties -/

/-- Put a value under a key into a list sorted by key, in place of the value it may have. -/
def insertSorted (key value : String) : List (String × String) → List (String × String)
  | [] => [(key, value)]
  | e :: rest =>
    if key < e.1 then (key, value) :: e :: rest
    else if key = e.1 then (key, value) :: rest
    else e :: insertSorted key value rest

/-- Every entry of the list after an insertion is the new one or was there before. -/
theorem mem_insertSorted {key value : String} {l : List (String × String)} {e : String × String}
    (h : e ∈ insertSorted key value l) : e = (key, value) ∨ e ∈ l := by
  induction l with
  | nil => simpa [insertSorted] using h
  | cons a rest ih =>
    unfold insertSorted at h
    split at h
    · simpa using h
    · split at h
      · rcases List.mem_cons.1 h with h | h
        · exact .inl h
        · exact .inr (List.mem_cons_of_mem _ h)
      · rcases List.mem_cons.1 h with h | h
        · exact .inr (h ▸ List.mem_cons_self ..)
        · exact (ih h).imp_right (List.mem_cons_of_mem _)

/-- Insertion keeps the keys strictly increasing. -/
theorem pairwise_insertSorted {key value : String} {l : List (String × String)}
    (h : l.Pairwise fun a b => a.1 < b.1) :
    (insertSorted key value l).Pairwise fun a b => a.1 < b.1 := by
  induction l with
  | nil => simp [insertSorted]
  | cons a rest ih =>
    have ha := List.pairwise_cons.1 h
    unfold insertSorted
    split
    · rename_i hlt
      refine List.pairwise_cons.2 ⟨fun b hb => ?_, h⟩
      rcases List.mem_cons.1 hb with rfl | hb
      · exact hlt
      · exact String.lt_trans hlt (ha.1 b hb)
    · rename_i hge
      split
      · rename_i heq
        exact List.pairwise_cons.2 ⟨fun b hb => heq ▸ ha.1 b hb, ha.2⟩
      · rename_i hne
        refine List.pairwise_cons.2 ⟨fun b hb => ?_, ih ha.2⟩
        rcases mem_insertSorted hb with rfl | hb
        · exact Std.lt_of_le_of_ne (String.not_lt.1 hge) fun e => hne e.symm
        · exact ha.1 b hb

/-- Properties handed to the database driver: one value a name, sorted by name. -/
structure DriverProperties where
  entries : List (String × String) := []
  sorted : entries.Pairwise fun a b => a.1 < b.1 := by exact List.Pairwise.nil
  deriving DecidableEq

namespace DriverProperties

/-- No properties. -/
def empty : DriverProperties := {}

/-- Give a property a value, in place of the one it may have. -/
def insert (p : DriverProperties) (key value : String) : DriverProperties :=
  ⟨insertSorted key value p.entries, pairwise_insertSorted p.sorted⟩

/-- The value of a property. -/
def get? (p : DriverProperties) (key : String) : Option String := p.entries.lookup key

/-- The properties assigned by a list, a later assignment winning over an earlier one. -/
def ofList (l : List (String × String)) : DriverProperties :=
  l.foldl (fun p e => p.insert e.1 e.2) .empty

end DriverProperties

/-! ## Endpoints -/

/-- Which database, as whom. Connections with equal endpoints may stand in for one another. An
endpoint stands here for the type code of 64 bits that is computed from it: distinct endpoints are
taken to have distinct codes. -/
structure Endpoint where
  url : String
  username : Option String
  password : Option String
  deriving DecidableEq, Inhabited

/-! ## Targets -/

/-- What a pool connects to, and what each new connection is set to. -/
structure Target where
  url : String := ""
  username : Option String := none
  password : Option String := none
  driverProperties : DriverProperties := .empty
  autoCommit : Option Bool := none
  isolation : Option Isolation := none
  networkTimeout : Option Span := none
  deriving DecidableEq

instance : Inhabited Target := ⟨{}⟩

namespace Target

/-- The url and the login of a target. -/
def endpoint (t : Target) : Endpoint := ⟨t.url, t.username, t.password⟩

/-- The same target with another login. -/
def loggedIn (t : Target) (username password : Option String) : Target :=
  { t with username, password }

/-- The same target with the login that an acquire brings along, if it brings one. -/
def withLogin (t : Target) : Option (String × String) → Target
  | some (username, password) => t.loggedIn (some username) (some password)
  | none => t

@[simp] theorem url_withLogin (t : Target) (login : Option (String × String)) :
    (t.withLogin login).url = t.url := by
  cases login <;> rfl

/-- The text of a target for a reader who debugs. It tells whether there is a password, not
which. -/
def describe (t : Target) : String :=
  Text.record "Target" [
    ("url", Text.quoted t.url),
    ("username", Text.optional Text.quoted t.username),
    ("password", Text.optional Text.quoted (t.password.map fun _ => "<redacted>")),
    ("driver_properties", Text.dictionary t.driverProperties.entries),
    ("default_auto_commit", Text.optional Text.truth t.autoCommit),
    ("default_isolation_level", Text.optional Isolation.name t.isolation),
    ("default_network_timeout", Text.optional Span.text t.networkTimeout)]

end Target

end ConnPool
