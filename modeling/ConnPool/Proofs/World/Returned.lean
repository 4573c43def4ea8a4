import ConnPool.Proofs.Pool.Returned
import ConnPool.Proofs.World.Shutdown

/-!
# Returns in the world

A caller who returns a handle, or drops it, is told nothing, whatever the connection answers in the
meantime. Which way a return ends depends on what the connection answers and on three things that
the pool knows: the room in the idle list, the endpoint that it expects, and whether it is shut
down. The last makes no difference, because no handle of a pool that is shut down is valid.

**Theorem (`release_ends_in_one_way`).** Every return of a valid handle ends in one of three ways,
and touches nothing else.
-/

namespace ConnPool.World

open Pool

variable {S : Type} [Bench S] {w : World S} {t n : Nat} {r : Ref} {h : Handle}

/-- The caller of the acquire of ticket `t` returned the valid handle `r` of pool `n`, which is `p'`
now. The calls were `said`. -/
structure Released (t n : Nat) (r : Ref) (w : World S) (site : Site S) (said : List Call)
    (w' : World S) (p' : Pool) : Prop where
  after : w'.pools[n]? = some p'
  calls : w.env.Through said w'.env
  /-- The handle was checked out, and is not any more. -/
  listed : r ∈ site.pool.active
  unlisted : r ∉ p'.active
  putAway : PutAway r site.pool p'
  way : Homecoming r (w.scene n site) said p'
  /-- No connection but its own is called. -/
  calledOnly : ∀ c ∈ said, c.site = n ∧ c.conn = site.pool.connOf r
  /-- Those who wait for the pool are woken. -/
  waiters : w'.waiters = w.waiters.map fun v => if v.site = n then { v with woken := true } else v
  tickets : w'.tickets = w.tickets.set t (.spent n r)
  sites : ∀ m ≠ n, w'.sites[m]? = w.sites[m]?

/-- A caller who returns a valid handle is told nothing, and the return ends in one of three
ways. -/
theorem release_ends_in_one_way (hw : Reachable w) (hh : w.held? t = some (n, r, h))
    (hv : h.valid = true) :
    ∃ site said w' p', w.sites[n]? = some site ∧ site.pool.handle r = h ∧
      w.act (.release t) = some (.done, w') ∧ Released t n r w site said w' p' := by
  obtain ⟨hgiven, site, hn, rfl⟩ := held?_eq_some hh
  have hp := pools_getElem? hn
  have ho := hw.owners.owned n site.pool hp
  have hidle := (hw.owners.lt_and_notMem_idle hp hgiven).2
  have hlisted : r ∈ site.pool.active := ho.mem_active hv hidle
  have hopen : site.pool.closed = false := by
    -- The lists of a closed pool are empty.
    refine Bool.eq_false_iff.2 fun hc => ?_
    have hnone := (hw.pool shut_invariant hp hc).2.1
    rw [hnone] at hlisted
    exact List.not_mem_nil hlisted
  obtain ⟨said, hsaid, hway, haway⟩ := release_homecoming (s := w.scene n site) hv hopen
  have hyields := (release_yields r (w.scene n site)).2
  have hact : w.act (.release t) = some (.done,
      ((w.after n site (Pool.release r (w.scene n site)).2).spend t n r).wakeAll n) := by
    rw [act, hh, Option.bind_some]
    dsimp only
    rw [actOn_of_site hn]
    rfl
  refine ⟨site, said, _, (Pool.release r (w.scene n site)).2.pool, hn, rfl, hact, ?_⟩
  constructor
  case after => exact pools_set_self hp (pools_after w n site _)
  case calls => exact hsaid
  case listed => exact hlisted
  case unlisted =>
    rw [haway.active]
    exact fun hr => (ho.nodup_active.mem_erase_iff.1 hr).1 rfl
  case putAway => exact haway
  case way => exact hway
  case calledOnly => exact hyields.calls_release hsaid
  case waiters => rfl
  case tickets => rfl
  case sites => exact fun m hm => List.getElem?_set_ne hm.symm

/-- A connection is checked out and an acquire waits. By now the connection cannot be rolled back.
-/
def stuck : World Scripted :=
  runAll {} [
    .create {} { settings := { maxActive := 1 }, target := { url := "db" } },
    .acquire 0 .ordinary false, .acquire 0 .ordinary false, .advance 5,
    .act (.order 0 (Scripted.Order.alter 1
      { autoCommit := some false, fails := [(.rollback, some .closed)] }))]

/-- It is closed when it is returned. The checkout is counted, and the acquire is woken. -/
theorem release_ends_in_one_way_stuck :
    ∃ r h site said w' p', stuck.held? 0 = some (0, r, h) ∧
      stuck.act (.release 0) = some (.done, w') ∧ Released 0 0 r stuck site said w' p' ∧
      closeCalls said = 1 ∧ p'.tally.bad = 0 ∧ p'.tally.checkoutTime = 5 ∧
      w'.waiters.map (fun v => (v.ticket, v.woken)) = [(1, true)] := by
  have hw : Reachable stuck := Reachable.runAll .refl _
  have hsome : (stuck.held? 0).isSome = true := by decide +kernel
  obtain ⟨⟨n, r, h⟩, hheld⟩ := Option.isSome_iff_exists.1 hsome
  have hfacts : ∀ x ∈ stuck.held? 0, x.1 = 0 ∧ x.2.2.valid = true := by decide +kernel
  obtain ⟨rfl, hv⟩ := hfacts _ hheld
  obtain ⟨site, said, w', p', hn, -, hact, hreleased⟩ := release_ends_in_one_way hw hheld hv
  have hafter : ∀ x ∈ stuck.act (.release 0),
      (∀ p ∈ x.2.pools[0]?, p.tally.bad = 0 ∧ p.tally.checkoutTime = 5 ∧ p.idle = []) ∧
      x.2.waiters.map (fun v => (v.ticket, v.woken)) = [(1, true)] := by decide +kernel
  obtain ⟨hpool, hwoken⟩ := hafter _ hact
  obtain ⟨hbad, htime, hidle⟩ := hpool _ hreleased.after
  refine ⟨r, h, site, said, w', p', hheld, hact, hreleased, ?_, hbad, htime, hwoken⟩
  cases hreleased.way with
  | bad _ _ htally =>
    rw [htally] at hbad
    exact absurd hbad (Nat.succ_ne_zero _)
  | kept _ _ _ _ hkept =>
    rw [hidle] at hkept
    exact absurd hkept.symm (by simp)
  | closed _ _ hclose => exact hclose

end ConnPool.World
