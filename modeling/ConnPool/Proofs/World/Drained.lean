import ConnPool.Proofs.Pool.Calls
import ConnPool.Proofs.World.Shutdown

/-!
# Giving up every connection

A pool gives up all that it has when it is closed by force, when it is shut down, and when it gets
another configuration. Each connection may fail in any of the calls that this takes, and each
failure is the affair of that one connection: none of the others is passed over for it, and no
handle stays in the lists.

**Theorem (`drain_reaches_all`).** Every connection in the lists is visited in turn, told to close
once, and left with a handle that is closed. Nothing else is touched.
-/

namespace ConnPool

open Pool

variable {S : Type}

/-! ## In the scene of the pool -/

/-- In scene `s'` the pool of `s` has taken leave of every connection, and is `q` otherwise. -/
structure Scene.Empties (q : Pool) (s s' : Scene S) : Prop where
  site : s'.site = s.site
  pool : s'.pool = q.emptied
  lists : q.active = s.pool.active ∧ q.idle = s.pool.idle ∧ q.handles = s.pool.handles
  calls : ∃ said, s.env.Through said s'.env ∧ Farewells s.site s.pool.pooled said

namespace Pool

variable [Backend S]

theorem drain_empties (s : Scene S) : Ends drain s fun _ s' => s.Empties s.pool s' :=
  .chatsAnd (drain_chats s) (drain_utters s) fun _ _ h hcalls =>
    ⟨h.site, h.pool, ⟨rfl, rfl, rfl⟩, hcalls⟩

theorem change_empties {c : Change} {s : Scene S}
    (hc : (c.onSettings s.pool.settings).problem? = none) :
    Ends (change c) s fun outcome s' => outcome = .ok () ∧ s.Empties (s.pool.changed c) s' := by
  refine .bind <| .look ?_
  rw [hc]
  refine .bind <| .update <| .bind <| (drain_empties _).mono fun _ s' h => .pure ⟨rfl, ?_⟩
  exact ⟨h.site, h.pool, ⟨rfl, rfl, rfl⟩, h.calls⟩

/-- A change that leads to settings which are not fit for use is refused. -/
theorem change_refused {c : Change} {s : Scene S} {cause : Misconfiguration}
    (hc : (c.onSettings s.pool.settings).problem? = some cause) :
    change c s = (.error (.configuration cause), s) := by
  unfold change
  rw [bind_run, look_run]
  dsimp only
  rw [hc]
  rfl

theorem shutDown_empties {s : Scene S} (ho : s.pool.closed = false) :
    Ends shutDown s fun wasOpen s' =>
      wasOpen = true ∧ s.Empties { s.pool with closed := true } s' := by
  refine .bind <| .look ?_
  rw [if_neg (by simp [ho])]
  refine .bind <| .update <| .bind <| (drain_empties _).mono fun _ s' h =>
    .bind <| .note <| .pure ⟨rfl, h.site, h.pool, ⟨rfl, rfl, rfl⟩, ?_⟩
  obtain ⟨said, hsaid, hleave⟩ := h.calls
  exact ⟨said, hsaid.note _, hleave⟩

theorem shutDown_of_closed {s : Scene S} (hc : s.pool.closed = true) :
    shutDown s = (false, s) := by
  unfold shutDown
  rw [bind_run, look_run]
  simp only [hc]
  rfl

end Pool

/-! ## In the world -/

namespace World

variable [Bench S] {w w' : World S} {n : Nat} {site : Site S}

/-- Pool `p` of number `n` is told to give up all that it has. -/
inductive Drains (n : Nat) (p : Pool) : Action (Bench.Order S) → Prop
  | forceClose : Drains n p (.forceClose n)
  | shutDown : Drains n p (.shutDown n)
  | change (c : Change) (hc : (c.onSettings p.settings).problem? = none) :
      Drains n p (.change n c)

/-- Pool `n`, which was `p`, gave up all that it had and is `p'` now. The calls were `said`. -/
structure Drained (n : Nat) (p : Pool) (w : World S) (said : List Call) (w' : World S)
    (p' : Pool) : Prop where
  after : w'.pools[n]? = some p'
  calls : w.env.Through said w'.env
  /-- The connections are left one after the other: the checked out ones from the newest checkout
  to the oldest, and then the idle ones from the newest to the oldest. -/
  order : Farewells n ((p.active.reverse ++ p.idle.reverse).map p.connOf) said
  /-- Each of them is told to close once. -/
  closes : ∀ r ∈ p.active ++ p.idle, closeCalls (said.filter (·.conn == p.connOf r)) = 1
  active : p'.active = []
  idle : p'.idle = []
  retired : ∀ r ∈ p.active ++ p.idle,
    (p'.handle r).valid = false ∧ (p'.handle r).data.state = .closed
  /-- No other connection of any pool is called, and no other handle changes. -/
  calledOnly : ∀ c ∈ said, c.site = n ∧ ∃ r ∈ p.active ++ p.idle, c.conn = p.connOf r
  handles : ∀ r ∉ p.active ++ p.idle, p'.handle r = p.handle r
  sites : ∀ m ≠ n, w'.sites[m]? = w.sites[m]?

/-- A pool that took leave of its connections has called each of them, and no other one. -/
theorem Drained.of_empties {q : Pool} {s' : Scene S} (hw : Reachable w)
    (hn : w.sites[n]? = some site) (h : (w.scene n site).Empties q s') :
    ∃ said, Drained n site.pool w said ((w.after n site s').wakeAll n) s'.pool := by
  have ho := hw.owners.owned n site.pool (pools_getElem? hn)
  obtain ⟨said, hsaid, hleave⟩ : ∃ said, w.env.Through said s'.env ∧
    Farewells n site.pool.pooled said := h.calls
  obtain ⟨hactive, hidle, htable⟩ : q.active = site.pool.active ∧ q.idle = site.pool.idle ∧
    q.handles = site.pool.handles := h.lists
  have hlist : q.active ++ q.idle = site.pool.active ++ site.pool.idle := by rw [hactive, hidle]
  have hconns : ∀ r ∈ site.pool.active ++ site.pool.idle,
      site.pool.connOf r ∈ site.pool.pooled := by
    intro r hr
    exact List.mem_map_of_mem (by simpa using hr)
  have hnodup : site.pool.pooled.Nodup := by
    have hlive : (site.pool.active.reverse ++ site.pool.idle.reverse).Perm (site.pool.live none) :=
      (List.reverse_perm _).append (List.reverse_perm _)
    refine (List.nodup_map_iff_inj_on (hlive.nodup_iff.2 ho.nodup)).2 fun r hr t ht heq => ?_
    exact ho.inj r (hlive.mem_iff.1 hr) t (hlive.mem_iff.1 ht) heq
  refine ⟨said, ?_⟩
  constructor
  case after =>
    exact pools_set_self (pools_getElem? hn) (pools_after w n site s')
  case calls => exact hsaid
  case order => exact hleave
  case closes => exact fun r hr => hleave.closes hnodup (hconns r hr)
  case active => rw [h.pool, active_emptied]
  case idle => rw [h.pool, idle_emptied]
  case retired =>
    intro r hr
    have hlt : r < q.handles.length := by
      rw [htable]
      exact ho.lt hr
    rw [h.pool, handle_emptied_of_mem (hlist ▸ hr) hlt]
    exact ⟨rfl, rfl⟩
  case calledOnly =>
    intro c hc
    obtain ⟨hsite, hconn⟩ := hleave.calls c hc
    obtain ⟨r, hr, heq⟩ := List.mem_map.1 hconn
    exact ⟨hsite, r, by simpa using hr, heq.symm⟩
  case handles =>
    intro r hr
    rw [h.pool, handle_emptied_of_notMem (hlist ▸ hr)]
    exact handle_congr htable r
  case sites =>
    intro m hm
    exact List.getElem?_set_ne hm.symm

/-- Nothing is left to give up in a pool that is shut down. -/
theorem Drained.of_closed (hw : Reachable w) (hn : w.sites[n]? = some site)
    (hc : site.pool.closed = true) : Drained n site.pool w [] w site.pool := by
  obtain ⟨-, ha, hi⟩ := hw.pool shut_invariant (pools_getElem? hn) hc
  have hnone : ∀ r, r ∉ site.pool.active ++ site.pool.idle := by simp [ha, hi]
  constructor
  case after => exact pools_getElem? hn
  case calls => exact .of_calls rfl
  case order =>
    rw [ha, hi]
    exact .nil
  case closes => exact fun r hr => absurd hr (hnone r)
  case active => exact ha
  case idle => exact hi
  case retired => exact fun r hr => absurd hr (hnone r)
  case calledOnly => exact fun c hc => absurd hc List.not_mem_nil
  case handles => exact fun _ _ => rfl
  case sites => exact fun _ _ => rfl

/-- Whatever the connections of a pool answer, an action that is to give all of them up is carried
out, and gives all of them up. -/
theorem drain_reaches_all (hw : Reachable w) (hn : w.site? n = some site)
    {action : Action (Bench.Order S)} (ha : Drains n site.pool action) :
    ∃ said w' p', w.act action = some (.done, w') ∧ Drained n site.pool w said w' p' := by
  have hsite := (Option.filter_eq_some_iff.1 hn).1
  cases ha with
  | forceClose =>
    obtain ⟨said, hdrained⟩ := Drained.of_empties hw hsite (drain_empties (w.scene n site))
    refine ⟨said, _, _, ?_, hdrained⟩
    rw [act, hn, Option.bind_some, actOn_of_site hsite]
    rfl
  | shutDown =>
    cases hc : site.pool.closed with
    | false =>
      obtain ⟨hopen, hempties⟩ := shutDown_empties (s := w.scene n site) hc
      obtain ⟨said, hdrained⟩ := Drained.of_empties hw hsite hempties
      refine ⟨said, _, _, ?_, hdrained⟩
      rw [act, hn, Option.bind_some, actOn_of_site hsite, hopen]
      rfl
    | true =>
      refine ⟨[], w, _, ?_, .of_closed hw hsite hc⟩
      have hsame := shutDown_of_closed (s := w.scene n site) hc
      rw [act, hn, Option.bind_some, actOn_of_site hsite, hsame, after_scene hsite]
      rfl
  | change c hc =>
    obtain ⟨hok, hempties⟩ := change_empties (s := w.scene n site) hc
    obtain ⟨said, hdrained⟩ := Drained.of_empties hw hsite hempties
    refine ⟨said, _, _, ?_, hdrained⟩
    rw [act, hn, Option.bind_some, actOn_of_site hsite, hok]
    rfl

/-- Two connections are checked out and one lies idle. By now the newest checkout cannot tell
whether it commits by itself, the oldest one cannot be rolled back, and the idle one cannot be
closed. -/
def brittle : World Scripted :=
  runAll {} [
    .create {} { target := { url := "db" } }, .acquire 0 .ordinary false,
    .acquire 0 .ordinary false, .acquire 0 .ordinary false, .act (.release 1),
    .act (.order 0 (Scripted.Order.alter 1
      { autoCommit := some false, fails := [(.rollback, some .closed)] })),
    .act (.order 0 (Scripted.Order.alter 2 { fails := [(.close, some .closed)] })),
    .act (.order 0 (Scripted.Order.alter 3 { fails := [(.autoCommit, some .closed)] }))]

/-- Every call is made all the same, in the order that was announced. -/
theorem drain_reaches_all_brittle :
    ∃ site said w' p', brittle.site? 0 = some site ∧
      brittle.act (.forceClose 0) = some (.done, w') ∧ Drained 0 site.pool brittle said w' p' ∧
      said.map (fun c => (c.conn, c.deed.text)) =
        [(3, "auto_commit"), (3, "close"), (1, "auto_commit"), (1, "rollback"), (1, "close"),
          (2, "auto_commit"), (2, "close")] := by
  have hw : Reachable brittle := Reachable.runAll .refl _
  have hsome : (brittle.site? 0).isSome = true := by decide +kernel
  obtain ⟨site, hn⟩ := Option.isSome_iff_exists.1 hsome
  obtain ⟨said, w', p', hact, hdrained⟩ := drain_reaches_all hw hn .forceClose
  refine ⟨site, said, w', p', hn, hact, hdrained, ?_⟩
  have hcalls : ∀ x ∈ brittle.act (.forceClose 0),
      x.2.env.calls.map (fun c => (c.conn, c.deed.text)) =
        [(2, "close"), (2, "auto_commit"), (1, "close"), (1, "rollback"), (1, "auto_commit"),
          (3, "close"), (3, "auto_commit")] ++
          brittle.env.calls.map fun c => (c.conn, c.deed.text) := by decide +kernel
  have hlater := hcalls _ hact
  rw [hdrained.calls, List.map_append, List.append_cancel_right_eq, List.map_reverse] at hlater
  exact List.reverse_inj.1 (hlater.trans rfl)

end World

end ConnPool
