import ConnPool.Proofs.Pool.Tally
import ConnPool.Proofs.World.Capacity
import ConnPool.Proofs.World.Drained

/-!
# Changes of the configuration

Whether settings are fit for use depends on several of them together, and each can be changed by
itself, in any order. A change is therefore looked at as a whole before any of it is carried out.
What a change sets is told field by field (`Change.value?`): a field that it does not name keeps its
value.

**Theorem (`change_all_or_nothing`).** The settings of a pool are always fit for use. A change that
would lead to others is refused and leaves no trace, and any other one is carried out to the end.
-/

namespace ConnPool

open Pool

/-! ## Settings that are fit for use -/

/-- A pool can be run with the settings: it may hand out a connection, and if it pings, then it has
something to ping with. -/
structure Settings.Fit (s : Settings) : Prop where
  active : 0 < s.maxActive
  query : s.pingEnabled = true → Text.trim s.pingQuery.toList ≠ []

theorem Settings.problem?_eq_none_iff {s : Settings} : s.problem? = none ↔ s.Fit := by
  constructor
  · intro h
    refine ⟨maxActive_pos h, fun hping hblank => ?_⟩
    have hactive : s.maxActive ≠ 0 := Nat.ne_of_gt (maxActive_pos h)
    rw [problem?, if_neg hactive, hping, hblank] at h
    cases h
  · rintro ⟨hactive, hquery⟩
    have hping : ¬(s.pingEnabled && (Text.trim s.pingQuery.toList).isEmpty) = true := by
      simpa using hquery
    rw [problem?, if_neg (Nat.ne_of_gt hactive), if_neg hping]

/-! ## What a change sets -/

/-- A part of the configuration of a pool. -/
inductive Field
  | maxActive
  | maxIdle
  | checkoutTimeout
  | waitTimeout
  | badTolerance
  | pingEnabled
  | pingQuery
  | pingThreshold
  | indefiniteWait
  | url
  | username
  | password
  | driverProperties
  | autoCommit
  | isolation
  | networkTimeout

namespace Field

/-- What a field holds. -/
def Value : Field → Type
  | maxActive | maxIdle | badTolerance => Nat
  | checkoutTimeout | waitTimeout | pingThreshold => Span
  | pingEnabled | indefiniteWait => Bool
  | pingQuery | url => String
  | username | password => Option String
  | driverProperties => DriverProperties
  | autoCommit => Option Bool
  | isolation => Option Isolation
  | networkTimeout => Option Span

/-- The value of a field. -/
def get (s : Settings) (t : Target) : (x : Field) → x.Value
  | maxActive => s.maxActive
  | maxIdle => s.maxIdle
  | checkoutTimeout => s.checkoutTimeout
  | waitTimeout => s.waitTimeout
  | badTolerance => s.badTolerance
  | pingEnabled => s.pingEnabled
  | pingQuery => s.pingQuery
  | pingThreshold => s.pingThreshold
  | indefiniteWait => s.indefiniteWait
  | url => t.url
  | username => t.username
  | password => t.password
  | driverProperties => t.driverProperties
  | autoCommit => t.autoCommit
  | isolation => t.isolation
  | networkTimeout => t.networkTimeout

/-- Whether a field is one of the target, and not of the settings. -/
def ofTarget : Field → Bool
  | url | username | password | driverProperties | autoCommit | isolation | networkTimeout => true
  | _ => false

end Field

/-- The value that a change gives to a field, if it names the field. -/
def Change.value? : Change → (x : Field) → Option x.Value
  | .settings v, x => if x.ofTarget then none else some (x.get v {})
  | .target v, x => if x.ofTarget then some (x.get {} v) else none
  | .maxActive v, .maxActive => some v
  | .maxIdle v, .maxIdle => some v
  | .checkoutTimeout v, .checkoutTimeout => some v
  | .waitTimeout v, .waitTimeout => some v
  | .badTolerance v, .badTolerance => some v
  | .pingEnabled v, .pingEnabled => some v
  | .pingQuery v, .pingQuery => some v
  | .pingThreshold v, .pingThreshold => some v
  | .url v, .url => some v
  | .credentials username _, .username => some (some username)
  | .credentials _ password, .password => some (some password)
  | .autoCommit v, .autoCommit => some (some v)
  | .isolation v, .isolation => some (some v)
  | .networkTimeout v, .networkTimeout => some (some v)
  | _, _ => none

/-- The fields that a change names get the values that it gives them, and the others keep
theirs. -/
theorem Change.get_eq (c : Change) (x : Field) (s : Settings) (t : Target) :
    x.get (c.onSettings s) (c.onTarget t) = (c.value? x).getD (x.get s t) := by
  cases c <;> cases x <;> rfl

/-! ## Changes in the world -/

namespace World

variable {S : Type} [Bench S] {w w' : World S} {n : Nat} {c : Change} {site : Site S}

/-- Pool `n`, which was `p`, was given a change and is `p'` now. -/
structure Reconfigured (n : Nat) (c : Change) (p : Pool) (w w' : World S) (p' : Pool) : Prop where
  after : w'.pools[n]? = some p'
  fields : ∀ x : Field,
    x.get p'.settings p'.target = (c.value? x).getD (x.get p.settings p.target)
  expected : p'.expected = ⟨p'.target.url, p'.target.username, p'.target.password⟩
  active : p'.active = []
  idle : p'.idle = []
  retired : ∀ r ∈ p.active ++ p.idle,
    p'.handle r = { p.handle r with valid := false, data.state := .closed }
  /-- Nothing else changes in the pool. -/
  handles : ∀ r ∉ p.active ++ p.idle, p'.handle r = p.handle r
  length : p'.handles.length = p.handles.length
  tally : p'.tally = p.tally
  closed : p'.closed = p.closed
  attempts : p'.attempts = p.attempts
  /-- Those who wait for the pool are woken. -/
  waiters : w'.waiters = w.waiters.map fun v => if v.site = n then { v with woken := true } else v
  tickets : w'.tickets = w.tickets
  sites : ∀ m ≠ n, w'.sites[m]? = w.sites[m]?

theorem Reconfigured.of_empties {s' : Scene S} (hw : Reachable w) (hn : w.sites[n]? = some site)
    (h : (w.scene n site).Empties (site.pool.changed c) s') :
    Reconfigured n c site.pool w ((w.after n site s').wakeAll n) s'.pool := by
  have ho := hw.owners.owned n site.pool (pools_getElem? hn)
  constructor
  case after => exact pools_set_self (pools_getElem? hn) (pools_after w n site s')
  case fields =>
    intro x
    rw [h.pool, settings_emptied, target_emptied]
    exact c.get_eq x _ _
  case expected =>
    rw [h.pool, expected_emptied, target_emptied]
    rfl
  case active => rw [h.pool, active_emptied]
  case idle => rw [h.pool, idle_emptied]
  case retired =>
    intro r hr
    rw [h.pool]
    exact handle_emptied_of_mem hr (ho.lt hr)
  case handles =>
    intro r hr
    rw [h.pool]
    exact handle_emptied_of_notMem hr
  case length =>
    rw [h.pool, length_emptied]
    rfl
  case tally =>
    rw [h.pool, tally_emptied]
    rfl
  case closed =>
    rw [h.pool, closed_emptied]
    rfl
  case attempts =>
    rw [h.pool, attempts_emptied]
    rfl
  case waiters => rfl
  case tickets => rfl
  case sites => exact fun m hm => List.getElem?_set_ne hm.symm

/-- A change is carried out as a whole or not at all. -/
theorem change_all_or_nothing (hw : Reachable w) :
    (∀ (n : Nat) (p : Pool), w.pools[n]? = some p → p.settings.Fit) ∧
    ∀ (n : Nat) (site : Site S) (c : Change), w.site? n = some site →
      (¬(c.onSettings site.pool.settings).Fit →
        ∃ cause, (c.onSettings site.pool.settings).problem? = some cause ∧
          w.act (.change n c) = some (.refused (.configuration cause), w)) ∧
      ((c.onSettings site.pool.settings).Fit →
        ∃ w' p', w.act (.change n c) = some (.done, w') ∧
          Reconfigured n c site.pool w w' p') := by
  refine ⟨fun n p hn => Settings.problem?_eq_none_iff.1 (hw.pool fit_invariant hn),
    fun n site c hn => ?_⟩
  have hsite := (Option.filter_eq_some_iff.1 hn).1
  have hact := actOn_of_site hsite (change c)
  refine ⟨fun hbad => ?_, fun hfit => ?_⟩
  · obtain ⟨cause, hcause⟩ : ∃ cause, (c.onSettings site.pool.settings).problem? = some cause :=
      Option.ne_none_iff_exists'.1 fun hnone => hbad (Settings.problem?_eq_none_iff.1 hnone)
    refine ⟨cause, hcause, ?_⟩
    have hrefused := change_refused (s := w.scene n site) hcause
    rw [act, hn, Option.bind_some, hact, hrefused, after_scene hsite]
    rfl
  · obtain ⟨hok, hempties⟩ :=
      change_empties (s := w.scene n site) (Settings.problem?_eq_none_iff.2 hfit)
    refine ⟨_, _, ?_, .of_empties hw hsite hempties⟩
    rw [act, hn, Option.bind_some, hact, hok]
    rfl

/-- The only connection is checked out, and an acquire waits. There is nothing to ping with. -/
def unpinged : World Scripted :=
  runAll {} [
    .create {} { settings := { maxActive := 1, pingQuery := " " }, target := { url := "db" } },
    .acquire 0 .ordinary false, .acquire 0 .ordinary false]

/-- To turn pings on is refused. To give the pool a query closes the connection and wakes the
acquire. -/
theorem change_all_or_nothing_unpinged :
    unpinged.act (.change 0 (.pingEnabled true)) =
        some (.refused (.configuration .blankPingQuery), unpinged) ∧
      ∃ site w' p', unpinged.site? 0 = some site ∧ site.pool.active = [0] ∧
        unpinged.act (.change 0 (.pingQuery "select 1")) = some (.done, w') ∧
        Reconfigured 0 (.pingQuery "select 1") site.pool unpinged w' p' ∧
        w'.waiters.map (fun v => (v.ticket, v.woken)) = [(1, true)] := by
  have hw : Reachable unpinged := Reachable.runAll .refl _
  have hsome : (unpinged.site? 0).isSome = true := by decide +kernel
  obtain ⟨site, hn⟩ := Option.isSome_iff_exists.1 hsome
  have hfacts : ∀ s ∈ unpinged.site? 0, s.pool.active = [0] ∧
      ((Change.pingEnabled true).onSettings s.pool.settings).problem? = some .blankPingQuery ∧
      ((Change.pingQuery "select 1").onSettings s.pool.settings).problem? = none := by
    decide +kernel
  obtain ⟨hactive, hblank, hfine⟩ := hfacts site hn
  have hall := (change_all_or_nothing hw).2 0 site
  constructor
  · have hbad : ¬((Change.pingEnabled true).onSettings site.pool.settings).Fit := fun hfit =>
      nomatch hblank.symm.trans (Settings.problem?_eq_none_iff.2 hfit)
    obtain ⟨cause, hcause, hact⟩ := (hall _ hn).1 hbad
    cases hblank.symm.trans hcause
    exact hact
  · obtain ⟨w', p', hact, hdone⟩ := (hall _ hn).2 (Settings.problem?_eq_none_iff.1 hfine)
    refine ⟨site, w', p', hn, hactive, hact, hdone, ?_⟩
    have hwoken : ∀ x ∈ unpinged.act (.change 0 (.pingQuery "select 1")),
        x.2.waiters.map (fun v => (v.ticket, v.woken)) = [(1, true)] := by decide +kernel
    exact hwoken _ hact

end World

end ConnPool
