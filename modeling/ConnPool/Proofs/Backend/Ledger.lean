import ConnPool.Proofs.Backend.Runs

/-!
# The ledger of a connection without a database

A connection keeps the statements that it ran, and counts those that are pending: run outside
auto-commit, and neither committed nor rolled back. What the ledger has to say follows from the
calls to the connection and their answers. `modeAfter` is the auto-commit mode that was set last,
and `openWork` counts the statements that were run outside auto-commit since the last call that
settled what was pending: a commit, a rollback, or a call that turned auto-commit on.

**Theorem (`ledger_balances`).** After any run, with faults anywhere in it, the ledger of every
connection says what its calls say. Turning auto-commit on commits exactly if something is pending,
and a call that meets a fault changes nothing.

A call that does not succeed has no part in either (`Account.of_fault`). For the others there is one
case for each order (`Connection.account_tell`). Where auto-commit is turned on while it is on
already, nothing is pending (`Connection.Pends`), so it does not matter that nothing is committed.
-/

namespace ConnPool

/-! ## What the calls say -/

/-- The statement that a call ran. -/
def Deed.statement? : Deed → Option String
  | .tell (.execute statement) (.ok _) => some statement
  | _ => none

/-- The auto-commit mode that a call set. -/
def Deed.mode? : Deed → Option Bool
  | .tell (.setAutoCommit on) (.ok _) => some on
  | _ => none

/-- Whether a call left nothing pending. -/
def Deed.settles : Deed → Bool
  | .tell .commit (.ok _) | .tell .rollback (.ok _) | .tell (.setAutoCommit true) (.ok _) => true
  | _ => false

namespace Mock

/-- The auto-commit mode after some calls, latest first. It is on at first. -/
def modeAfter (deeds : List Deed) : Bool := (deeds.findSome? Deed.mode?).getD true

/-- How many statements were run outside auto-commit since the last call that settled. -/
def openWork : List Deed → Nat
  | [] => 0
  | deed :: deeds =>
    if deed.settles then 0
    else if deed.statement?.isSome && !modeAfter deeds then openWork deeds + 1
    else openWork deeds

/-- The statements that were run, in order. -/
def statementsOf (deeds : List Deed) : List String := (deeds.filterMap Deed.statement?).reverse

/-- What was done to a connection, if an event was about it. -/
def Event.deedOn? (conn : Nat) : Event → Option Deed
  | .call c deed => if c = conn then some deed else none
  | .order _ => none

/-- The calls to a connection, latest first. -/
def deedsOn (conn : Nat) (past : List Event) : List Deed := past.filterMap (Event.deedOn? conn)

/-! ## Accounts -/

/-- What the ledger of a connection says. -/
structure Account where
  autoCommit : Bool
  executed : List String
  pending : Nat

/-- The account that follows from the calls to a connection. -/
def Account.of (deeds : List Deed) : Account :=
  ⟨modeAfter deeds, statementsOf deeds, openWork deeds⟩

/-- The account of a connection. -/
def Connection.account (k : Mock.Connection) : Account := ⟨k.autoCommit, k.executed, k.pending⟩

/-- The account under a name. Without a connection there is nothing in it. -/
def account (m : Mock) (conn : Nat) : Account :=
  ((m.get? conn).map Connection.account).getD (.of [])

/-- A call that runs nothing, sets no mode and settles nothing. -/
theorem Account.of_idle {deed : Deed} (hstatement : deed.statement? = none)
    (hmode : deed.mode? = none) (hsettles : deed.settles = false) (deeds : List Deed) :
    Account.of (deed :: deeds) = Account.of deeds := by
  simp [Account.of, modeAfter, statementsOf, openWork, hstatement, hmode, hsettles]

/-- A call that meets a fault does not count. -/
theorem Account.of_fault (command : Command) (fault : Fault) (deeds : List Deed) :
    Account.of (.tell command (.error fault) :: deeds) = .of deeds := by
  cases command with
  | setAutoCommit on => cases on <;> exact of_idle rfl rfl rfl deeds
  | _ => exact of_idle rfl rfl rfl deeds

/-! ## One call -/

namespace Connection

variable {k : Mock.Connection}

theorem executed_setAutoCommit (k : Mock.Connection) (on : Bool) :
    (k.setAutoCommit on).executed = k.executed := by
  unfold setAutoCommit
  split <;> rfl

/-- In auto-commit nothing is pending, whether or not it was on before. -/
theorem pending_setAutoCommit (h : k.Pends) (on : Bool) :
    (k.setAutoCommit on).pending = if on then 0 else k.pending := by
  unfold setAutoCommit
  cases on with
  | false => rfl
  | true =>
    by_cases hpending : 0 < k.pending
    · simp [h hpending, hpending, commit]
    · simpa [hpending] using Nat.eq_zero_of_not_pos hpending

/-- To turn auto-commit on is a commit exactly if something is pending. -/
theorem commits_setAutoCommit (h : k.Pends) :
    (k.setAutoCommit true).commits = k.commits + if 0 < k.pending then 1 else 0 := by
  unfold setAutoCommit
  by_cases hpending : 0 < k.pending
  · simp [h hpending, hpending, commit]
  · simp [hpending]

end Connection

/-- An order that is carried out changes the account as the calls say. -/
theorem Connection.account_tell {failing : List String} {k k' : Mock.Connection}
    {command : Command} {deeds : List Deed} (h : k.tell failing command = .ok k')
    (hpends : k.Pends) (hk : k.account = .of deeds) :
    k'.account = .of (.tell command (.ok ()) :: deeds) := by
  have hdone := (carryOut_of_tell h).1
  obtain ⟨hmode, hexecuted, hpending⟩ := Account.mk.inj hk
  cases command with
  | close | setIsolation | setNetworkTimeout =>
    cases hdone
    rw [Account.of_idle rfl rfl rfl]
    exact hk
  | commit | rollback =>
    cases hdone
    exact congrArg₂ (Account.mk · · 0) hmode hexecuted
  | setAutoCommit on =>
    cases hdone
    have hwork : openWork (.tell (.setAutoCommit on) (.ok ()) :: deeds) =
        if on then 0 else openWork deeds := by cases on <;> rfl
    rw [account, executed_setAutoCommit, pending_setAutoCommit hpends, hexecuted, hpending, ← hwork]
    rfl
  | execute statement =>
    rw [carryOut] at hdone
    split at hdone
    · cases hdone
    · cases hdone
      have hran : statementsOf (.tell (.execute statement) (.ok ()) :: deeds) =
          k.executed ++ [statement] := by
        rw [hexecuted]
        exact List.reverse_cons
      have hwork : openWork (.tell (.execute statement) (.ok ()) :: deeds) =
          if k.autoCommit then k.pending else k.pending + 1 := by
        rw [hmode, hpending]
        cases hmode' : modeAfter deeds <;> simp [openWork, Deed.settles, Deed.statement?, hmode']
      have hkept : modeAfter (.tell (.execute statement) (.ok ()) :: deeds) = k.autoCommit :=
        hmode.symm
      rw [Account.of, hran, hwork, hkept]
      rfl

/-! ## Runs -/

variable {m₀ m m' : Mock} {past : List Event} {conn c : Nat} {k : Mock.Connection}

theorem deedsOn_call (conn c : Nat) (deed : Deed) (past : List Event) :
    deedsOn conn (.call c deed :: past) =
      if c = conn then deed :: deedsOn conn past else deedsOn conn past := by
  by_cases hc : c = conn <;> simp [deedsOn, Event.deedOn?, hc]

theorem account_of_get? (hk : m.get? conn = some k) : m.account conn = k.account := by
  rw [account, hk]
  rfl

/-- A new connection has nothing in its account. -/
theorem account_connect (m : Mock) (conn : Nat) (target : Target) (c : Nat) :
    (connect conn target m).2.account c = m.account c := by
  unfold account
  rw [get?_connect]
  cases m.get? c with
  | some k => rfl
  | none =>
    split <;> rfl

/-- What a test does to the backend changes no account. -/
theorem account_obey {order : Order} {reply : OrderReply} (h : m.obey order = some (reply, m')) :
    m'.account c = m.account c := by
  obtain ⟨severed, heq⟩ := get?_obey h c
  rw [account, heq, Option.map_map]
  rfl

/-- An order changes the account of the connection that it is given to. -/
theorem account_tell {attempts : Nat} (hkept : m.Kept attempts) (conn : Nat) (command : Command)
    {deeds : List Deed} (h : m.account conn = .of deeds) :
    (tell conn command m).2.account conn =
      .of (.tell command (tell conn command m).1.outcome :: deeds) := by
  cases houtcome : (tell conn command m).1.outcome with
  | error fault =>
    rw [tell_error houtcome, Account.of_fault]
    exact h
  | ok done =>
    cases hk : m.get? conn with
    | none =>
      rw [tell_outcome, hk] at houtcome
      exact nomatch houtcome
    | some k =>
      obtain ⟨k', htell, hk'⟩ := tell_ok hk houtcome
      rw [account_of_get? hk] at h
      rw [account_of_get? hk']
      exact Connection.account_tell htell (hkept.pends conn k hk) h

/-- It changes no other account. -/
theorem account_tell_ne (m : Mock) (command : Command) (hne : c ≠ conn) :
    (tell conn command m).2.account c = m.account c := by
  unfold account
  rw [get?_tell]
  simp only [if_neg hne, Option.map_id']

/-- In every run each account says what the calls to the connection say. -/
theorem Runs.account_eq (h₀ : m₀.Unused) (h : Runs m₀ past m) (conn : Nat) :
    m.account conn = .of (deedsOn conn past) := by
  induction h with
  | start =>
    rw [account, get?, h₀.connections]
    rfl
  | @connect past m _ c _ target ih =>
    rw [account_connect, ih, deedsOn_call]
    split
    · exact (Account.of_idle rfl rfl rfl _).symm
    · rfl
  | @ask past m _ c question ih =>
    rw [ask_backend, ih, deedsOn_call]
    split
    · exact (Account.of_idle rfl rfl rfl _).symm
    · rfl
  | @tell past m hrun c command ih =>
    rw [deedsOn_call]
    by_cases hc : c = conn
    · subst hc
      obtain ⟨attempts, hkept⟩ := (hrun.reached h₀).kept
      rw [if_pos rfl]
      exact account_tell hkept c command ih
    · rw [if_neg hc, account_tell_ne m command (Ne.symm hc)]
      exact ih
  | obey _ order hobey ih => exact (account_obey hobey).trans ih

/-- **The ledger of a connection.** After any run the mode, the statements and the number of pending
ones are what the calls to the connection and their answers say, and nothing is pending in
auto-commit. A call that meets a fault changes nothing. If auto-commit can be turned on, that counts
as one commit if something is pending, and otherwise as none. -/
theorem ledger_balances (h₀ : m₀.Unused) (h : Runs m₀ past m) (hk : m.get? conn = some k) :
    k.autoCommit = modeAfter (deedsOn conn past) ∧
      k.pending = openWork (deedsOn conn past) ∧ (0 < k.pending → k.autoCommit = false) ∧
      k.executed = statementsOf (deedsOn conn past) ∧
      (∀ command fault, (tell conn command m).1.outcome = .error fault →
        (tell conn command m).2 = m) ∧
      (∀ question, (ask conn question m).2 = m) ∧
      ((tell conn (.setAutoCommit true) m).1.outcome = .ok () →
        ∃ k', ((tell conn (.setAutoCommit true) m).2).get? conn = some k' ∧
          k'.commits = k.commits + if 0 < k.pending then 1 else 0) := by
  obtain ⟨attempts, hkept⟩ := (h.reached h₀).kept
  have hpends := hkept.pends conn k hk
  obtain ⟨hmode, hexecuted, hpending⟩ :=
    Account.mk.inj ((account_of_get? hk).symm.trans (h.account_eq h₀ conn))
  refine ⟨hmode, hpending, hpends, hexecuted, fun _ _ => tell_error, ask_backend m conn,
    fun hdone => ?_⟩
  obtain ⟨k', htell, hk'⟩ := tell_ok hk hdone
  obtain rfl := Except.ok.inj (Connection.carryOut_of_tell htell).1
  exact ⟨_, hk', Connection.commits_setAutoCommit hpends⟩

/-- A backend with one connection, which runs a statement in auto-commit and some more outside of
it, with a rollback and a failure in between. -/
def busy : Mock :=
  [Command.execute "SELECT", .setAutoCommit false, .execute "INSERT", .rollback,
    .execute "UPDATE", .execute " DROP ", .execute "DELETE"].foldl
      (fun m command => (tell 1 command m).2) (connect 1 target { failing := ["DROP"] }).2

/-- What was run after the rollback is pending, and is committed when auto-commit is turned on. -/
theorem ledger_balances_busy :
    ∃ past k, Unused { failing := ["DROP"] } ∧ Runs { failing := ["DROP"] } past busy ∧
      busy.get? 1 = some k ∧ k.autoCommit = false ∧ k.pending = 2 ∧
      k.executed = ["SELECT", "INSERT", "UPDATE", "DELETE"] ∧
      (tell 1 (.execute "DROP") busy).2 = busy ∧
      ∃ k', ((tell 1 (.setAutoCommit true) busy).2).get? 1 = some k' ∧
        k'.commits = k.commits + 1 := by
  have hunused : Unused { failing := ["DROP"] } := ⟨rfl, rfl, rfl⟩
  have hstart : Runs { failing := ["DROP"] } [] { failing := ["DROP"] } := .start
  have hrun : Runs _ _ busy := (((((((hstart.connect 1 rfl target).tell 1
    (.execute "SELECT")).tell 1 (.setAutoCommit false)).tell 1 (.execute "INSERT")).tell 1
    .rollback).tell 1 (.execute "UPDATE")).tell 1 (.execute " DROP ")).tell 1 (.execute "DELETE")
  have hsome : (busy.get? 1).isSome = true := by decide +kernel
  have hk : busy.get? 1 = some ((busy.get? 1).get hsome) := (Option.some_get hsome).symm
  obtain ⟨hmode, hpending, -, hexecuted, hfault, -, hon⟩ := ledger_balances hunused hrun hk
  have htwo : ((busy.get? 1).get hsome).pending = 2 := hpending.trans (by decide +kernel)
  obtain ⟨k', hk', hcommits⟩ := hon (by decide +kernel)
  rw [htwo, if_pos (by decide)] at hcommits
  refine ⟨_, _, hunused, hrun, hk, hmode.trans ?_, htwo, hexecuted.trans ?_,
    hfault _ (.driver "statement failed: DROP") ?_, k', hk', hcommits⟩
  all_goals decide +kernel

end Mock

end ConnPool
