import ConnPool.Backend.Mock
import ConnPool.Proofs.Pool.Upkeep

/-!
# Clean connections

A connection is clean if it is not closed and has nothing pending, so that whoever gets it finds
none of the work of the caller before. Three things hold up that a pool hands out clean connections
only. Statements are pending only outside auto-commit (`Mock.Kept`), so a connection that says that
it commits by itself has nothing pending. Any other one is rolled back, and the pool takes a fault
of the rollback for a bad connection. And no connection is opened under a name that is taken.

**Theorems (`upkeep_keeping`, `isFit_clean`).** No act of the pool commits anything, and a
connection that is found fit is clean.
-/

namespace ConnPool

namespace Mock

/-! ## Connections -/

namespace Connection

/-- What a connection answers. -/
def answer (k : Mock.Connection) : Question → Bool
  | .isClosed => k.closed
  | .autoCommit => k.autoCommit

/-- The connection after an order, whether or not it was carried out. -/
def told (failing : List String) (k : Mock.Connection) (command : Command) : Mock.Connection :=
  match k.tell failing command with
  | .ok k' => k'
  | .error _ => k

variable {failing : List String} {k k' : Mock.Connection} {command : Command}

theorem told_of_ok (h : k.tell failing command = .ok k') : k.told failing command = k' := by
  rw [told, h]

/-- An order that is carried out leaves what `carryOut` says. -/
theorem carryOut_of_tell (h : k.tell failing command = .ok k') :
    k.carryOut failing command = .ok k' ∧ (command ≠ .close → k.closed = false) := by
  unfold tell at h
  split at h
  · exact nomatch h
  · next hfault =>
    refine ⟨h, fun hne => ?_⟩
    rw [if_neg hne] at hfault
    cases hc : k.closed with
    | false => rfl
    | true => simp [fault?, hc] at hfault

/-- Nothing is pending on a connection that commits by itself. -/
def Pends (k : Mock.Connection) : Prop := 0 < k.pending → k.autoCommit = false

/-- An order to a connection keeps its statements from being pending in auto-commit. -/
theorem Pends.told (h : k.Pends) (failing : List String) (command : Command) :
    (k.told failing command).Pends := by
  cases htell : k.tell failing command with
  | error fault =>
    rw [Connection.told, htell]
    exact h
  | ok k' =>
    rw [told_of_ok htell]
    have hk := (carryOut_of_tell htell).1
    cases command with
    | close | setIsolation | setNetworkTimeout =>
      cases hk
      exact h
    | commit | rollback =>
      cases hk
      exact fun hpos => absurd hpos (Nat.lt_irrefl 0)
    | setAutoCommit on =>
      cases hk
      intro hpos
      by_cases hcommit : (on && !k.autoCommit && decide (0 < k.pending)) = true
      · rw [setAutoCommit, if_pos hcommit] at hpos
        exact absurd hpos (Nat.lt_irrefl 0)
      · -- What is pending now was pending before, outside auto-commit.
        rw [setAutoCommit, if_neg hcommit] at hpos ⊢
        have hauto := h hpos
        simpa [hauto, show 0 < k.pending from hpos] using hcommit
    | execute statement =>
      rw [carryOut] at hk
      split at hk
      · exact nomatch hk
      · cases hk
        intro hpos
        by_cases hauto : k.autoCommit = true
        · simp only [execute, if_pos hauto] at hpos
          exact h hpos
        · simpa [execute] using hauto

/-- Of the orders that a pool gives none commits, unless it turns auto-commit on while something is
pending. -/
theorem commits_told (failing : List String) (hc : command ≠ .commit)
    (hp : command.isCare = true ∨ k.pending = 0) :
    (k.told failing command).commits = k.commits := by
  cases htell : k.tell failing command with
  | error fault => rw [told, htell]
  | ok k' =>
    rw [told_of_ok htell]
    have hk := (carryOut_of_tell htell).1
    cases command with
    | close | setIsolation | setNetworkTimeout | rollback =>
      cases hk
      rfl
    | commit => exact absurd rfl hc
    | setAutoCommit on =>
      cases hk
      have hpending : k.pending = 0 := hp.resolve_left Bool.false_ne_true
      simp [setAutoCommit, hpending]
    | execute statement =>
      rw [carryOut] at hk
      split at hk
      · exact nomatch hk
      · cases hk
        rfl

/-- Of the orders that are not for a connection in use none leaves anything pending. -/
theorem pending_told (failing : List String) (hc : command.isCare = false) (hp : k.pending = 0) :
    (k.told failing command).pending = 0 := by
  cases htell : k.tell failing command with
  | error fault =>
    rw [told, htell]
    exact hp
  | ok k' =>
    rw [told_of_ok htell]
    have hk := (carryOut_of_tell htell).1
    cases command with
    | close | rollback | execute => exact nomatch hc
    | commit =>
      cases hk
      rfl
    | setIsolation | setNetworkTimeout =>
      cases hk
      exact hp
    | setAutoCommit on =>
      cases hk
      simp [setAutoCommit, hp]

end Connection

/-! ## The connections of a backend -/

variable {m m' : Mock} {conn c : Nat} {attempts : Nat}

theorem lookup_map {α : Type} (l : List (Nat × α)) (f : Nat → α → α) (c : Nat) :
    (l.map fun e => (e.1, f e.1 e.2)).lookup c = (l.lookup c).map (f c) := by
  induction l with
  | nil => rfl
  | cons e rest ih =>
    obtain ⟨a, x⟩ := e
    by_cases heq : c = a
    · simp [heq]
    · have hbeq : (c == a) = false := by simpa using heq
      simp only [List.map_cons, List.lookup_cons, hbeq, ih]

theorem get?_put (m : Mock) (conn : Nat) (k : Mock.Connection) (c : Nat) :
    (m.put conn k).get? c = (m.get? c).map fun k' => if c = conn then k else k' := by
  have h := lookup_map m.connections (fun c k' => if c = conn then k else k') c
  rw [get?, get?, put, ← h]
  congr 1
  refine List.map_congr_left fun e _ => ?_
  split
  · next heq => rw [heq]
  · rfl

/-- An order changes the connection that it is given to, and no other one. -/
theorem get?_tell (m : Mock) (conn : Nat) (command : Command) (c : Nat) :
    ((tell conn command m).2).get? c =
      (m.get? c).map fun k => if c = conn then k.told m.failing command else k := by
  -- Where the connection stays as it is, so does the backend.
  have hsame : (∀ k, m.get? conn = some k → k.told m.failing command = k) →
      m.get? c = (m.get? c).map fun k => if c = conn then k.told m.failing command else k := by
    intro h
    cases hk : m.get? c with
    | none => rfl
    | some k =>
      by_cases heq : c = conn
      · rw [Option.map_some, if_pos heq, h k (heq ▸ hk)]
      · rw [Option.map_some, if_neg heq]
  unfold tell
  split
  · next hnone => exact hsame fun k hk => nomatch hnone.symm.trans hk
  · next k hk =>
    split
    · next fault htell =>
      refine hsame fun k' hk' => ?_
      cases Option.some.inj (hk.symm.trans hk')
      rw [Connection.told, htell]
    · next after htell =>
      have hput : (m.put conn after).get? c =
          (m.get? c).map fun k => if c = conn then k.told m.failing command else k := by
        rw [get?_put]
        refine Option.map_congr fun k' hk' => ?_
        by_cases heq : c = conn
        · subst heq
          cases Option.some.inj (hk.symm.trans hk')
          rw [if_pos rfl, if_pos rfl, Connection.told_of_ok htell]
        · rw [if_neg heq, if_neg heq]
      split
      · exact hput
      · exact hput

/-- The answer to a question comes from the connection. -/
theorem ask_outcome (m : Mock) (conn : Nat) (question : Question) :
    (ask conn question m).1.outcome =
      match m.get? conn with
      | none => .error .closed
      | some k => .ok (k.answer question) := by
  unfold ask
  cases m.get? conn <;> cases question <;> rfl

theorem ask_backend (m : Mock) (conn : Nat) (question : Question) :
    (ask conn question m).2 = m := by
  unfold ask
  cases m.get? conn <;> cases question <;> rfl

/-- An order that is carried out is carried out by the connection. -/
theorem tell_ok {k : Mock.Connection} {command : Command} (hk : m.get? conn = some k)
    (h : (tell conn command m).1.outcome = .ok ()) :
    ∃ k', k.tell m.failing command = .ok k' ∧ ((tell conn command m).2).get? conn = some k' := by
  cases htell : k.tell m.failing command with
  | error fault =>
    simp only [tell, hk, htell] at h
    exact nomatch h
  | ok k' =>
    refine ⟨k', rfl, ?_⟩
    rw [get?_tell, hk, Option.map_some, if_pos rfl, Connection.told_of_ok htell]

/-- How many commits there were on a connection. -/
def commits (m : Mock) (conn : Nat) : Nat := ((m.get? conn).map (·.commits)).getD 0

/-- The connections have names up to the number of attempts, and what is pending on them is so
outside auto-commit. -/
structure Kept (attempts : Nat) (m : Mock) : Prop where
  names : ∀ conn, attempts < conn → m.get? conn = none
  pends : ∀ conn k, m.get? conn = some k → k.Pends

/-- The connection is not closed and has nothing pending. -/
def Clean (m : Mock) (conn : Nat) : Prop :=
  ∃ k, m.get? conn = some k ∧ k.closed = false ∧ k.pending = 0

theorem Kept.tell (h : Kept attempts m) (conn : Nat) (command : Command) :
    Kept attempts (Mock.tell conn command m).2 where
  names c hc := by rw [get?_tell, h.names c hc, Option.map_none]
  pends c k hk := by
    rw [get?_tell] at hk
    obtain ⟨k₀, hk₀, rfl⟩ := Option.map_eq_some_iff.1 hk
    split
    · exact (h.pends c k₀ hk₀).told m.failing command
    · exact h.pends c k₀ hk₀

theorem commits_tell (m : Mock) {conn : Nat} {command : Command} (hc : command ≠ .commit)
    (hp : command.isCare = true ∨ ∀ k, m.get? conn = some k → k.pending = 0) (c : Nat) :
    (Mock.tell conn command m).2.commits c = m.commits c := by
  rw [commits, commits, get?_tell, Option.map_map]
  refine congrArg (·.getD 0) (Option.map_congr fun k hk => ?_)
  dsimp only [Function.comp]
  split
  · next heq => exact Connection.commits_told m.failing hc (hp.imp_right fun h => h k (heq ▸ hk))
  · rfl

/-- Of a connection, what a test does to the backend changes nothing but the link. -/
theorem get?_obey {order : Order} {reply : OrderReply} (h : m.obey order = some (reply, m'))
    (c : Nat) : ∃ severed : Mock.Connection → Bool,
      m'.get? c = (m.get? c).map fun k => { k with severed := severed k } := by
  have hid : m'.connections = m.connections →
      m'.get? c = (m.get? c).map fun k => { k with severed := k.severed } := by
    intro hc
    rw [get?, hc, Option.map_id']
    rfl
  cases order with
  | refuse | bornClosed | failStatement | counts =>
    cases h
    exact ⟨_, hid rfl⟩
  | severAll =>
    cases h
    exact ⟨fun _ => true, lookup_map m.connections (fun _ k => { k with severed := true }) c⟩
  | sever conn =>
    obtain ⟨k, hk, heq⟩ := Option.map_eq_some_iff.1 h
    cases heq
    by_cases hc : c = conn
    · subst hc
      exact ⟨fun _ => true, by rw [get?_put, hk, Option.map_some, if_pos rfl, Option.map_some]⟩
    · exact ⟨(·.severed), by rw [get?_put]; simp only [if_neg hc]⟩

/-- A test can do nothing to the backend that commits or puts statements into auto-commit. -/
theorem obey_keeps {order : Order} {reply : OrderReply} (h : m.obey order = some (reply, m')) :
    (Kept attempts m → Kept attempts m') ∧ ∀ c, m'.commits c = m.commits c := by
  refine ⟨fun hk => ⟨fun c hc => ?_, fun c k hk' => ?_⟩, fun c => ?_⟩
  all_goals obtain ⟨severed, heq⟩ := get?_obey h c
  · rw [heq, hk.names c hc, Option.map_none]
  · rw [heq] at hk'
    obtain ⟨k₀, hk₀, rfl⟩ := Option.map_eq_some_iff.1 hk'
    exact hk.pends c k₀ hk₀
  · rw [commits, commits, heq, Option.map_map]
    rfl

/-- A new connection is found under its name, unless the name was taken. -/
theorem get?_connect (m : Mock) (conn : Nat) (target : Target) (c : Nat) :
    ((connect conn target m).2).get? c =
      (m.get? c).or (if m.refuse = false ∧ c = conn then some (m.fresh target) else none) := by
  unfold connect
  by_cases hrefuse : m.refuse = true
  · rw [if_pos hrefuse, if_neg (by simp [hrefuse]), Option.or_none]
  · rw [if_neg hrefuse]
    show (m.connections ++ [(conn, m.fresh target)]).lookup c = _
    rw [List.lookup_append]
    by_cases hc : c = conn
    · subst hc
      rw [if_pos ⟨Bool.eq_false_iff.2 hrefuse, rfl⟩, List.lookup_cons_self]
      rfl
    · have hother : (c == conn) = false := beq_eq_false_iff_ne.2 hc
      rw [if_neg fun h => hc h.2, List.lookup_cons, hother]
      rfl

/-- What is found after an attempt was there before, or it is the new connection. -/
theorem get?_connect_cases {target : Target} {k : Mock.Connection}
    (h : ((connect conn target m).2).get? c = some k) :
    m.get? c = some k ∨ (c = conn ∧ k = m.fresh target) := by
  rw [get?_connect, Option.or_eq_some_iff] at h
  rcases h with h | ⟨-, h⟩
  · exact .inl h
  · split at h
    · next hc =>
      cases h
      exact .inr ⟨hc.2, rfl⟩
    · exact nomatch h

theorem Kept.connect {bound : Nat} (h : Kept attempts m) (hattempts : attempts ≤ bound)
    (hconn : conn ≤ bound) (target : Target) : Kept bound (connect conn target m).2 where
  names c hc := by
    rw [get?_connect, h.names c (Nat.lt_of_le_of_lt hattempts hc), if_neg fun hnew => ?_]
    · rfl
    · exact Nat.not_lt.2 hconn (hnew.2 ▸ hc)
  pends c k hk := by
    rcases get?_connect_cases hk with hk | ⟨-, rfl⟩
    · exact h.pends c k hk
    · exact fun hpos => absurd hpos (Nat.lt_irrefl 0)

/-- A connection that is opened under a new name has nothing pending, and no commits. -/
theorem connect_keeps (h : Kept attempts m) (target : Target) :
    Kept (attempts + 1) (connect (attempts + 1) target m).2 ∧
      (∀ k, ((connect (attempts + 1) target m).2).get? (attempts + 1) = some k → k.pending = 0) ∧
      ∀ c, (connect (attempts + 1) target m).2.commits c = m.commits c := by
  have hnew : m.get? (attempts + 1) = none := h.names _ (Nat.lt_succ_self _)
  refine ⟨h.connect (Nat.le_succ _) (Nat.le_refl _) target, fun k hk => ?_, fun c => ?_⟩
  · rcases get?_connect_cases hk with hk | ⟨-, rfl⟩
    · exact nomatch hnew.symm.trans hk
    · rfl
  · unfold commits
    rw [get?_connect]
    split
    · next hc =>
      rw [hc.2, hnew]
      rfl
    · rw [Option.or_none]

/-! ## Runs of the backend alone -/

/-- The backends that come about from one without connections, by attempts to connect under names
that are not taken, by questions and orders to connections, and by what a test does. -/
inductive Reached : Mock → Prop
  | fresh {m : Mock} (hconnections : m.connections = []) (hopened : m.opened = 0)
      (hclosed : m.closed = 0) : Reached m
  | connect {m : Mock} (h : Reached m) {conn : Nat} (hnew : m.get? conn = none) (target : Target) :
      Reached (connect conn target m).2
  | ask {m : Mock} (h : Reached m) (conn : Nat) (question : Question) :
      Reached (ask conn question m).2
  | tell {m : Mock} (h : Reached m) (conn : Nat) (command : Command) :
      Reached (tell conn command m).2
  | obey {m m' : Mock} (h : Reached m) {order : Order} {reply : OrderReply}
      (hobey : m.obey order = some (reply, m')) : Reached m'

/-- In every run what is pending is so outside auto-commit. -/
theorem Reached.kept (h : Reached m) : ∃ attempts, Kept attempts m := by
  induction h with
  | @fresh m hconnections =>
    have hnone : ∀ c, m.get? c = none := by
      intro c
      rw [get?, hconnections]
      rfl
    exact ⟨0, fun c _ => hnone c, fun c k hk => nomatch (hnone c).symm.trans hk⟩
  | @connect _ _ conn _ target ih =>
    obtain ⟨attempts, hk⟩ := ih
    exact ⟨max attempts conn, hk.connect (Nat.le_max_left _ _) (Nat.le_max_right _ _) target⟩
  | ask _ conn question ih => rwa [ask_backend]
  | tell _ conn command ih =>
    obtain ⟨attempts, hk⟩ := ih
    exact ⟨attempts, hk.tell conn command⟩
  | obey _ hobey ih =>
    obtain ⟨attempts, hk⟩ := ih
    exact ⟨attempts, (obey_keeps hobey).1 hk⟩

end Mock

/-! ## Talks -/

open Pool

namespace Talk

variable {conn : Nat} {l : Line Mock} {attempts : Nat}

theorem ask_backend (conn : Nat) (question : Question) (l : Line Mock) :
    ((ask conn question : Attempt Mock Bool).run l).2.backend = l.backend :=
  Mock.ask_backend l.backend conn question

theorem tell_backend (conn : Nat) (command : Command) (l : Line Mock) :
    ((tell conn command : Attempt Mock Unit).run l).2.backend =
      (Mock.tell conn command l.backend).2 := by
  cases command <;> rfl

theorem tell_outcome (conn : Nat) (command : Command) (l : Line Mock) :
    ((tell conn command : Attempt Mock Unit).run l).1 =
      (Mock.tell conn command l.backend).1.outcome := by
  cases command <;> rfl

theorem dispose_backend (conn : Nat) (l : Line Mock) :
    ((dispose conn : Talk Mock Unit) l).2.backend = (Mock.tell conn .close l.backend).2 := by
  unfold dispose
  rw [bind_run, ← tell_backend]
  cases ((tell conn .close : Attempt Mock Unit).run l).1 <;> rfl

theorem mem_defaults {t : Target} {command : Command} (h : command ∈ t.defaults) :
    command.isCare = false ∧ command ≠ .commit := by
  simp only [Target.defaults, List.mem_append, Option.mem_toList, Option.map_eq_some_iff] at h
  rcases h with (⟨_, -, rfl⟩ | ⟨_, -, rfl⟩) | ⟨_, -, rfl⟩ <;> exact ⟨rfl, nofun⟩

/-- To set a connection on which nothing is pending to its defaults commits nothing. -/
theorem prepare_keeps (target : Target) (hk : l.backend.Kept attempts)
    (hp : ∀ k, l.backend.get? conn = some k → k.pending = 0) :
    (((prepare conn target : Attempt Mock Unit).run l).2.backend).Kept attempts ∧
      ∀ c, (((prepare conn target : Attempt Mock Unit).run l).2.backend).commits c =
        l.backend.commits c := by
  rw [prepare_eq]
  have hall : ∀ command ∈ target.defaults, command.isCare = false ∧ command ≠ .commit :=
    fun _ => mem_defaults
  revert hall
  generalize target.defaults = commands
  intro hall
  induction commands generalizing l with
  | nil => exact ⟨hk, fun _ => rfl⟩
  | cons command rest ih =>
    obtain ⟨hcare, hcommit⟩ := hall command (List.mem_cons_self ..)
    have hback := tell_backend conn command l
    have hk₁ : (((tell conn command : Attempt Mock Unit).run l).2.backend).Kept attempts := by
      rw [hback]
      exact hk.tell conn command
    have hc₁ : ∀ c, (((tell conn command : Attempt Mock Unit).run l).2.backend).commits c =
        l.backend.commits c := by
      rw [hback]
      exact Mock.commits_tell _ hcommit (.inr hp)
    change
      (((tell conn command >>= fun _ => rest.forM (tell conn)).run l).2.backend).Kept attempts ∧
      ∀ c, (((tell conn command >>= fun _ => rest.forM (tell conn)).run l).2.backend).commits c =
        l.backend.commits c
    rw [attempt_run]
    cases ((tell conn command : Attempt Mock Unit).run l).1 with
    | error fault => exact ⟨hk₁, hc₁⟩
    | ok _ =>
      have hp₁ : ∀ k, (((tell conn command : Attempt Mock Unit).run l).2.backend).get? conn =
          some k → k.pending = 0 := by
        intro k hk
        rw [hback, Mock.get?_tell] at hk
        obtain ⟨k₀, hk₀, rfl⟩ := Option.map_eq_some_iff.1 hk
        rw [if_pos rfl]
        exact Mock.Connection.pending_told _ hcare (hp k₀ hk₀)
      obtain ⟨hk₂, hc₂⟩ := ih hk₁ hp₁ fun c hc => hall c (List.mem_cons_of_mem _ hc)
      exact ⟨hk₂, fun c => (hc₂ c).trans (hc₁ c)⟩

theorem ask_ok {k : Mock.Connection} (hk : l.backend.get? conn = some k) (question : Question) :
    ((ask conn question : Attempt Mock Bool).run l).1 = .ok (k.answer question) := by
  have h := Mock.ask_outcome l.backend conn question
  rw [hk] at h
  exact h

/-- A rollback that goes well leaves a connection clean that was not closed. -/
theorem clearPending_clean {k : Mock.Connection} (hk : l.backend.Kept attempts)
    (hconn : l.backend.get? conn = some k) (hopen : k.closed = false)
    (h : ((clearPending conn : Attempt Mock Unit).run l).1 = .ok ()) :
    (((clearPending conn : Attempt Mock Unit).run l).2.backend).Clean conn := by
  unfold clearPending at h ⊢
  rw [attempt_run, ask_ok hconn .autoCommit] at h ⊢
  have hback := ask_backend conn .autoCommit l
  cases hauto : k.autoCommit with
  | true =>
    rw [Mock.Connection.answer, hauto]
    refine ⟨k, ?_, hopen, Nat.eq_zero_of_not_pos fun hpos => ?_⟩
    · change (((ask conn .autoCommit : Attempt Mock Bool).run l).2.backend).get? conn = some k
      rw [hback, hconn]
    · exact nomatch hauto.symm.trans (hk.pends conn k hconn hpos)
  | false =>
    rw [Mock.Connection.answer, hauto] at h ⊢
    change ((tell conn .rollback : Attempt Mock Unit).run
      ((ask conn .autoCommit : Attempt Mock Bool).run l).2).1 = .ok () at h
    change (((tell conn .rollback : Attempt Mock Unit).run
      ((ask conn .autoCommit : Attempt Mock Bool).run l).2).2.backend).Clean conn
    rw [tell_outcome, hback] at h
    rw [tell_backend, hback]
    obtain ⟨k', htell, hget⟩ := Mock.tell_ok hconn h
    have hrollback := (Mock.Connection.carryOut_of_tell htell).1
    cases hrollback
    exact ⟨k.rollback, hget, hopen, rfl⟩

/-- A ping that goes well leaves a clean connection. -/
theorem ping_clean {p : Probe} {k : Mock.Connection} (hk : l.backend.Kept attempts)
    (hconn : l.backend.get? conn = some k)
    (h : ((p.ping conn : Attempt Mock Unit).run l).1 = .ok ()) :
    (((p.ping conn : Attempt Mock Unit).run l).2.backend).Clean conn := by
  unfold Probe.ping at h ⊢
  rw [attempt_run] at h ⊢
  have hback := tell_backend conn (.execute p.query) l
  cases hout : ((tell conn (.execute p.query) : Attempt Mock Unit).run l).1 with
  | error fault =>
    rw [hout] at h
    exact nomatch h
  | ok _ =>
    rw [hout] at h
    rw [tell_outcome] at hout
    obtain ⟨k', htell, hget⟩ := Mock.tell_ok hconn hout
    obtain ⟨hexecute, hopen⟩ := Mock.Connection.carryOut_of_tell htell
    rw [← hback] at hget
    have hkept : (((tell conn (.execute p.query) : Attempt Mock Unit).run l).2.backend).Kept
        attempts := by
      rw [hback]
      exact hk.tell conn _
    refine clearPending_clean hkept hget ?_ h
    rw [Mock.Connection.carryOut] at hexecute
    split at hexecute
    · exact nomatch hexecute
    · cases hexecute
      exact hopen nofun

/-- A connection that a probe finds healthy is not closed, and if it was pinged it is clean. -/
theorem examine_open {p : Probe} {unused : Span} (hk : l.backend.Kept attempts)
    (h : (p.examine conn unused l).1.healthy = true) :
    (∃ k, ((p.examine conn unused l).2.backend).get? conn = some k ∧ k.closed = false) ∧
      ((p.examine conn unused l).1.pinged = true →
        ((p.examine conn unused l).2.backend).Clean conn) := by
  obtain ⟨hask, hrest⟩ := Probe.examine_healthy h
  have hback := ask_backend conn .isClosed l
  obtain ⟨k, hconn, hopen⟩ : ∃ k, l.backend.get? conn = some k ∧ k.closed = false := by
    have houtcome := (Mock.ask_outcome l.backend conn .isClosed).symm.trans hask
    cases hconn : l.backend.get? conn with
    | none =>
      rw [hconn] at houtcome
      exact nomatch houtcome
    | some k =>
      rw [hconn] at houtcome
      exact ⟨k, rfl, Except.ok.inj houtcome⟩
  rcases hrest with ⟨hpinged, heq⟩ | ⟨hping, heq⟩
  · rw [heq, hback, hpinged]
    exact ⟨⟨k, hconn, hopen⟩, nofun⟩
  · obtain ⟨e, hok, hlast⟩ := Probe.pingOrClose_none hping
    rw [heq, hlast]
    obtain ⟨k', hget, hopen', hpending⟩ :=
      ping_clean (by rw [← hback] at hk; exact hk) (by rw [← hback] at hconn; exact hconn) hok
    exact ⟨⟨k', hget, hopen'⟩, fun _ => ⟨k', hget, hopen', hpending⟩⟩

end Talk

/-! ## Acts -/

/-- From one scene to another the backend stays kept, and nothing is committed. -/
def Keeping (s s' : Scene Mock) : Prop :=
  s.backend.Kept s.pool.attempts →
    s'.backend.Kept s'.pool.attempts ∧ ∀ conn, s'.backend.commits conn = s.backend.commits conn

theorem openNew_keeping (login : Option (String × String)) {s : Scene Mock}
    (hk : s.backend.Kept s.pool.attempts) :
    Ends (openNew login) s fun _ s' => s'.backend.Kept s'.pool.attempts ∧
      ∀ conn, s'.backend.commits conn = s.backend.commits conn := by
  obtain ⟨hkept, hfresh, hcommits⟩ := Mock.connect_keeps hk (s.pool.target.withLogin login)
  refine .bind <| .look <| .bind <| .update <| .bind <| ends_talk fun s₁ hp₁ hl₁ => ?_
  have hb₁ : s₁.backend = (Mock.connect (s.pool.attempts + 1) (s.pool.target.withLogin login)
    s.backend).2 := congrArg Line.backend hl₁
  rw [← hb₁] at hkept hfresh hcommits
  split
  · exact .pure ⟨by rw [hp₁]; exact hkept, hcommits⟩
  · obtain ⟨hkept₂, hcommits₂⟩ :=
      Talk.prepare_keeps (l := s₁.toLine) (s.pool.target.withLogin login) hkept hfresh
    refine .bind <| ends_talk fun s₂ hp₂ hl₂ => ?_
    have hattempts : s₂.pool.attempts = s.pool.attempts + 1 := by rw [hp₂, hp₁]
    rw [← congrArg Line.backend hl₂] at hkept₂ hcommits₂
    have hcommits₂ : ∀ conn, s₂.backend.commits conn = s.backend.commits conn :=
      fun conn => (hcommits₂ conn).trans (hcommits conn)
    split
    · refine .bind <| ends_talk fun s₃ hp₃ hl₃ => .pure ?_
      rw [hp₃, hattempts, congrArg Line.backend hl₃, Talk.dispose_backend]
      have hclose : Command.close ≠ .commit := nofun
      refine ⟨hkept₂.tell _ _, fun conn => ?_⟩
      exact (Mock.commits_tell _ hclose (.inl rfl) conn).trans (hcommits₂ conn)
    · rw [← hattempts] at hkept₂
      exact .bind <| ends_wrap <| .bind <| .handleAt <| .bind <| .note <| .pure
        ⟨hkept₂, hcommits₂⟩

theorem upkeep_keeping : Upkeep Keeping where
  refl s h := ⟨h, fun _ => rfl⟩
  trans h₁ h₂ h := by
    obtain ⟨hk₁, hc₁⟩ := h₁ h
    obtain ⟨hk₂, hc₂⟩ := h₂ hk₁
    exact ⟨hk₂, fun conn => (hc₂ conn).trans (hc₁ conn)⟩
  env _ h := ⟨h, fun _ => rfl⟩
  pool ht h := ⟨ht.attempts ▸ h, fun _ => rfl⟩
  ask conn question s h := by
    have hback := Talk.ask_backend conn question s.toLine
    change Mock.Kept _ ((Talk.ask conn question : Attempt Mock Bool).run s.toLine).2.backend ∧
      ∀ c, ((Talk.ask conn question : Attempt Mock Bool).run s.toLine).2.backend.commits c = _
    rw [hback]
    exact ⟨h, fun _ => rfl⟩
  tell conn command hc s h := by
    have hback := Talk.tell_backend conn command s.toLine
    change Mock.Kept _ ((Talk.tell conn command : Attempt Mock Unit).run s.toLine).2.backend ∧
      ∀ c, ((Talk.tell conn command : Attempt Mock Unit).run s.toLine).2.backend.commits c = _
    rw [hback]
    refine ⟨h.tell conn command, Mock.commits_tell _ (fun hcommit => ?_) (.inl hc)⟩
    rw [hcommit] at hc
    exact nomatch hc
  openNew login _ h := openNew_keeping login h

/-- A connection that is found fit is clean. -/
theorem isFit_clean {r : Ref} {s : Scene Mock} (hk : s.backend.Kept s.pool.attempts)
    (h : (isFit r s).1 = true) : ((isFit r s).2.backend).Clean (s.pool.connOf r) := by
  unfold isFit at h ⊢
  rw [bind_run] at h ⊢
  cases hsound : (isSound r s).1 with
  | false =>
    rw [hsound] at h
    exact nomatch h
  | true =>
    rw [hsound] at h
    obtain ⟨hhealthy, hafter⟩ := isSound_true hsound
    obtain ⟨⟨k, hconn, hopen⟩, -⟩ := Talk.examine_open hk hhealthy
    obtain ⟨hk₁, -⟩ := upkeep_keeping.isSound r s hk
    obtain ⟨hcleared, hlast⟩ := isCleared_true h
    change ((isCleared r (isSound r s).2).2.backend).Clean (s.pool.connOf r)
    rw [hlast]
    rw [hafter] at hk₁ hcleared ⊢
    exact Talk.clearPending_clean hk₁ hconn hopen hcleared

end ConnPool
