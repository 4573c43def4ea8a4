import ConnPool.Proofs.Pool.Endpoints
import ConnPool.Proofs.World.Demands
import ConnPool.Proofs.World.Fates
import ConnPool.Proofs.World.Logins

/-!
# Endpoints and logins

A pool keeps the endpoint of its target in three places: in the target, in what it expects of a
connection that is returned, and in each handle. An acquire can be blocked while the target changes,
and writes the third copy after that. The login that the acquire brings along comes from a demand
that may have been made long before.

* `Run.turned`: the turn with which an acquire ends has the login of its demand.
* `Run.bound`: a handle that is checked out is bound to the login of the demand that it came from.

**Theorem (`endpoints_agree`).** In every reachable world the copies agree, and so a connection of
another login than that of the target is not kept when it is returned.
-/

namespace ConnPool.World

open Pool

variable {S : Type} [Bench S] {w w' : World S} {n t : Nat} {p p' : Pool} {r : Ref} {d : Demand}
  {past : List (World S)}

theorem idleBound_invariant : PoolInvariant fun _ _ p _ => p.IdleBound where
  empty _ _ hr := absurd hr List.not_mem_nil
  later _ h := h
  seek st ho h := st.idleBound ho h
  yield y ho _ h := y.idleBound ho h

/-! ## Turns -/

omit [Bench S] in
theorem Given.lt (h : w.Given t n r) : t < w.tickets.length :=
  h.elim (fun ht => (List.getElem?_eq_some_iff.1 ht).1)
    fun ht => (List.getElem?_eq_some_iff.1 ht).1

omit [Bench S] in
/-- The turn of an acquire that got a handle ended with this handle. -/
theorem eq_done_of_given {turn : Turn} (ht : w.tickets[t]? = some (turn.ticket n))
    (hg : w.Given t n r) : ∃ a, turn = .done a (.ok r) := by
  have hturn : turn.ticket n = .held n r ∨ turn.ticket n = .spent n r :=
    hg.imp (fun h => Option.some.inj (ht.symm.trans h)) fun h => Option.some.inj (ht.symm.trans h)
  rcases turn with ⟨a, e | s⟩ | ⟨a, wait⟩
  · exact hturn.elim nofun nofun
  · rcases hturn with heq | heq <;> cases heq
    exact ⟨a, rfl⟩
  · exact hturn.elim nofun nofun

/-- The turn with which an acquire ends has the login of its demand. -/
theorem Run.turned (hr : Run w past) (hn : w.pools[n]? = some p) (ht : TurnOf n t w w')
    (hg : w'.Given t n r) (h : Asked n t d w' (w :: past)) :
    ∃ phase turn p', Turned n t w w' p phase turn p' ∧ phase.login = d.login := by
  obtain ⟨site, hsite, rfl⟩ := exists_site_of_pools hn
  rcases asked_next.1 h with ⟨hd, rfl⟩ | hold
  · rcases demand_cases hd with ⟨flag, rfl⟩ | ⟨cause, rfl⟩
    · obtain ⟨turn, p', hturned⟩ := start_turned hsite d.login flag
      exact ⟨_, turn, p', hturned, rfl⟩
    · -- One that was refused got no handle.
      have hfailed : (w.refuse n (.configuration cause)).tickets[w.tickets.length]? =
          some (.failed (.configuration cause)) := by
        simp [refuse, finish, Ended.result]
      rcases hg with hg | hg <;> cases hfailed.symm.trans hg
  · cases ht with
    | start _ _ _ _ heq => exact absurd heq (Nat.ne_of_lt (hr.asked_lt hold))
    | resume v hv hvn heq hw' =>
      subst hvn heq hw'
      obtain ⟨turn, p', hturned⟩ := resume_turned hr.reachable hv hsite
      exact ⟨_, turn, p', hturned, (hr.asked_blocked hv hold).1.symm⟩

/-- A caller who gets a handle gets it in a turn of the acquire. -/
theorem Section.turn_of_given (hs : Section w w') (hw : Reachable w) (hnew : r ∉ w.lent n)
    (hg : w'.Given t n r) : ∃ p, w.pools[n]? = some p ∧ TurnOf n t w w' := by
  have hlent : r ∈ w'.lent n := mem_lent.2 ⟨t, hg⟩
  cases hn : w.pools[n]? with
  | none =>
    rw [(hs.blank hw hn).1] at hlent
    exact absurd hlent List.not_mem_nil
  | some p =>
    refine ⟨p, rfl, ?_⟩
    by_cases hturn : HasTurn n w w'
    · obtain ⟨u, hu⟩ := hturn
      obtain ⟨phase, turn, p', h⟩ := hu.turned hw hn
      have hhanded : r ∈ turn.handed :=
        (List.mem_append.1 (h.lent.mem_iff.1 hlent)).resolve_right hnew
      rcases turn with ⟨a, e | s⟩ | ⟨a, wait⟩
      · exact nomatch hhanded
      · cases List.mem_singleton.1 hhanded
        have hw' : Reachable w' := hw.tail hs
        rwa [hw'.owners.once t u n r hg (.inl h.ticket)]
      · exact nomatch hhanded
    · obtain ⟨p', h⟩ := hs.quiet hw hn hturn
      exact absurd (h.lent ▸ hlent) hnew

/-- What was lent before was lent to the same caller. -/
theorem Section.given_of_lent (hs : Section w w') (hw : Reachable w) (hr : r ∈ w.lent n)
    (hg : w'.Given t n r) : w.Given t n r := by
  obtain ⟨u, hu⟩ := mem_lent.1 hr
  have hw' : Reachable w' := hw.tail hs
  rwa [hw'.owners.once t u n r hg (hs.given hw hu)]

/-- A handle that a caller has from an acquire was asked for. -/
theorem Run.given_asked (hr : Run w past) (hg : w.Given t n r) : ∃ d, Asked n t d w past := by
  induction hr with
  | start => exact absurd hg (not_given_empty t n r)
  | @next w w' past hr hs ih =>
    have hw := hr.reachable
    by_cases hold : r ∈ w.lent n
    · obtain ⟨d, hasked⟩ := ih (hs.given_of_lent hw hold hg)
      exact ⟨d, asked_next.2 (.inr hasked)⟩
    · obtain ⟨p, -, hturn⟩ := hs.turn_of_given hw hold hg
      cases hturn with
      | start d flag hd hw' ht => exact ⟨d, asked_next.2 (.inl ⟨hd, ht.symm⟩)⟩
      | resume v hv hvn ht hw' =>
        obtain ⟨d, hasked, -⟩ := hr.asked hv
        exact ⟨d, asked_next.2 (.inr (hvn ▸ ht ▸ hasked))⟩

/-! ## Handles that are checked out -/

/-- A checkout that goes on keeps its endpoint, and the target stays the same for so long. -/
theorem Section.endpoint (hs : Section w w') (hw : Reachable w) (hn : w.pools[n]? = some p)
    (hn' : w'.pools[n]? = some p') (hr : r ∈ p.active) (hr' : r ∈ p'.active) :
    (p'.handle r).data.endpoint = (p.handle r).data.endpoint ∧ p'.target = p.target := by
  have ho := hw.owners.owned n p hn
  by_cases hturn : HasTurn n w w'
  · obtain ⟨u, hu⟩ := hturn
    obtain ⟨phase, turn, q, h⟩ := hu.turned hw hn
    cases Option.some.inj (hn'.symm.trans h.after)
    obtain ⟨raised, hseeks⟩ := h.seeks
    have hlent := hw.lent_of_active ⟨p, hn, hr⟩
    have hnew : r ∉ turn.handed := fun hhanded => (h.handed hw hn hhanded).2 hlent
    have hsame := hseeks.handle_same (h.starts.hand ▸ ho) (mem_live_of_active hr') hnew
    exact ⟨congrArg (·.data.endpoint) hsame.2, hseeks.aims.target⟩
  · obtain ⟨site, hsite, rfl⟩ := exists_site_of_pools hn
    obtain ⟨site', hsite', hyields⟩ := hs.yields hw hsite hturn
    cases Option.some.inj (hn'.symm.trans (pools_getElem? hsite'))
    rcases hyields with hsame | ⟨who, -, hy⟩
    · have hpool : site'.pool = site.pool := hsame
      rw [hpool]
      exact ⟨rfl, rfl⟩
    · exact ⟨hy.endpoint (ho.lt (mem_live_of_active hr)), hy.target hr'⟩

/-- A handle that is checked out is bound to the url of the target, with the login that was demanded
of the acquire. -/
theorem Run.bound (hr : Run w past) (hn : w.pools[n]? = some p) (hactive : r ∈ p.active)
    (hg : w.Given t n r) (h : Asked n t d w past) :
    (p.handle r).data.endpoint = (p.target.withLogin d.login).endpoint := by
  induction hr generalizing p with
  | start => exact absurd hg (not_given_empty t n r)
  | @next w w' past hr hs ih =>
    have hw := hr.reachable
    by_cases hold : Active n r w
    · have hgiven := hs.given_of_lent hw (hw.lent_of_active hold) hg
      obtain ⟨q, hq, hin⟩ := hold
      obtain ⟨hsame, htarget⟩ := hs.endpoint hw hq hn hin hactive
      rw [hsame, htarget]
      exact ih hq hin hgiven (asked_before h hgiven.lt)
    · have hnew := ((hs.enters hw hold).1 ⟨p, hn, hactive⟩).1
      obtain ⟨q, hq, hturn⟩ := hs.turn_of_given hw hnew hg
      obtain ⟨phase, turn, q', hturned, hlogin⟩ := hr.turned hq hturn hg h
      cases Option.some.inj (hn.symm.trans hturned.after)
      obtain ⟨raised, hseeks⟩ := hturned.seeks
      obtain ⟨a, rfl⟩ := eq_done_of_given hturned.ticket hg
      rw [← hlogin]
      exact hseeks.endpoint hturned.starts

/-! ## The copies agree -/

/-- What the endpoints of pool `n` are after a run. -/
structure Agrees (n : Nat) (w : World S) (past : List (World S)) (p : Pool) : Prop where
  /-- The pool expects the endpoint of its target. -/
  expected : p.expected = ⟨p.target.url, p.target.username, p.target.password⟩
  /-- Every handle that waits to be handed out is bound to it. -/
  idle : ∀ r ∈ p.idle, (p.handle r).data.endpoint = p.expected
  /-- Every handle that is checked out came from an acquire, which was demanded, -/
  asked : ∀ r ∈ p.active, ∃ t d, w.Given t n r ∧ Asked n t d w past
  /-- and is bound to the url of the target and the login of the demand, which is that of the target
  if none was brought along. -/
  active : ∀ r ∈ p.active, ∀ t d, w.Given t n r → Asked n t d w past →
    (p.handle r).data.endpoint.url = p.target.url ∧
      d.SignsIn p.target (p.handle r).data.endpoint.username (p.handle r).data.endpoint.password
  /-- When a handle of an acquire with a login of its own is returned, its connection is kept only
  if that is the login of the target. -/
  kept : ∀ t username password answer w' p',
    Asked n t (.loggedIn username password) w past →
    (∃ r h, w.held? t = some (n, r, h)) → w.act (.release t) = some (answer, w') →
    w'.pools[n]? = some p' → (∃ s ∈ p'.idle, s ∉ p.idle) →
      p.target.username = some username ∧ p.target.password = some password

/-- In every reachable world the endpoints of the handles agree with the target of their pool and
with what was demanded. -/
theorem endpoints_agree (hr : Run w past) (hn : w.pools[n]? = some p) : Agrees n w past p where
  expected := (hr.reachable.pool isolated_invariant hn).expected
  idle := hr.reachable.pool idleBound_invariant hn
  asked r hactive := by
    obtain ⟨t, hg⟩ := mem_lent.1 (hr.reachable.lent_of_active ⟨p, hn, hactive⟩)
    obtain ⟨d, hasked⟩ := hr.given_asked hg
    exact ⟨t, d, hg, hasked⟩
  active r hactive t d hg h := by
    rw [hr.bound hn hactive hg h]
    exact ⟨p.target.url_withLogin d.login, d.signsIn_withLogin p.target⟩
  kept t username password answer w' p' hasked hheld hact hn' hnew := by
    obtain ⟨s, hs, hsnew⟩ := hnew
    obtain ⟨m, r, site, hheld', hsite, -, rfl⟩ := act_release hact
    obtain ⟨r', h, hh⟩ := hheld
    cases hh.symm.trans hheld'
    cases Option.some.inj (hn.symm.trans (pools_getElem? hsite))
    have hself := pools_set_self hn (pools_after w n site (Pool.release r (w.scene n site)).2)
    cases Option.some.inj (hn'.symm.trans hself)
    obtain ⟨hgiven, -⟩ := held?_eq_some hheld'
    have ho := hr.reachable.owners.owned n _ hn
    obtain ⟨r', hwho, hv, hkeeps, -⟩ :=
      (release_yields r (w.scene n site)).2.keeps_of_new hs hsnew
    cases hwho
    have hactive : r ∈ site.pool.active :=
      ho.mem_active hv (hr.reachable.owners.lt_and_notMem_idle hn hgiven).2
    have hbound := hr.bound hn hactive hgiven hasked
    have hexpected := (hr.reachable.pool isolated_invariant hn).expected
    exact Target.endpoint_loggedIn_iff.1
      (hbound.symm.trans ((endpoint_of_keeps hkeeps).trans hexpected))

/-- Two connections are checked out, one of them with a login of its own, and an acquire with this
login waits. The url changes, and the acquire runs after that. Another connection is idle by then.
-/
def movedLogins : World Scripted :=
  runAll {} [
    .create {} {
      settings := { maxActive := 2 }
      target := { url := "old", username := some "app", password := some "secret" } },
    .acquire 0 .ordinary false, .acquire 0 (.loggedIn "reporting" "pw") false,
    .acquire 0 (.loggedIn "reporting" "pw") false, .act (.change 0 (.url "new")),
    .acquire 0 .ordinary false, .act (.release 3)]

/-- All endpoints have the new url, and the connection with the other login is not kept when it is
returned. -/
theorem endpoints_agree_moved :
    ∃ past p, Run movedLogins past ∧ movedLogins.pools[0]? = some p ∧ Agrees 0 movedLogins past p ∧
      p.active.map (fun r => (p.handle r).data.endpoint) =
        [⟨"new", some "reporting", some "pw"⟩] ∧
      p.idle.map (fun r => (p.handle r).data.endpoint) = [⟨"new", some "app", some "secret"⟩] ∧
      ∀ x ∈ movedLogins.act (.release 2), ∀ p' ∈ x.2.pools[0]?, p'.active = [] ∧
        p'.idle = p.idle := by
  have hw : Reachable movedLogins := Reachable.runAll .refl _
  obtain ⟨past, hr⟩ := hw.exists_run
  have hsome : (movedLogins.pools[0]?).isSome = true := by decide +kernel
  obtain ⟨p, hn⟩ := Option.isSome_iff_exists.1 hsome
  have hfacts : ∀ p ∈ movedLogins.pools[0]?,
      p.active.map (fun r => (p.handle r).data.endpoint) =
        [⟨"new", some "reporting", some "pw"⟩] ∧
      p.idle.map (fun r => (p.handle r).data.endpoint) = [⟨"new", some "app", some "secret"⟩] ∧
      ∀ x ∈ movedLogins.act (.release 2), ∀ p' ∈ x.2.pools[0]?, p'.active = [] ∧
        p'.idle = p.idle := by decide +kernel
  exact ⟨past, p, hr, hn, endpoints_agree hr hn, hfacts p hn⟩

end ConnPool.World
