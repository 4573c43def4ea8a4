import ConnPool.Backend.Scripted
import ConnPool.Proofs.Pool.Covered
import ConnPool.Proofs.World.Capacity

/-!
# Acquires that wait

An acquire that waits must not sleep on while the pool could serve it. It is woken by whatever gives
something back, but not by another acquire that takes an overdue connection over and then fails.

**Theorem (`waiters_wake_in_time`).** Even so no acquire is stuck. The pool that it waits for has
nothing to offer, or else the wait is about to end.
-/

namespace ConnPool

open Pool

theorem ordered_invariant : PoolInvariant fun _ e p _ => Ordered e p where
  empty _ := .of_empty _ rfl
  later he h := h.lasts he.now ⟨.refl _, fun _ _ => rfl⟩
  seek st ho h := h.seek st ho
  yield y ho _ h := h.yield y ho

namespace Covered

variable {n : Nat} {raised : Bool} {g g' : Stage}

/-- A wait that is covered stays so during the turn of another acquire. -/
theorem seeks {wakes : Instant} (hs : Seeks n raised g g')
    (ho : Owned g.env g.pool (g.pool.live g.phase.hand)) (hord : Ordered g.env g.pool)
    (h : Covered g.env g.pool g.phase.hand wakes) :
    Covered g'.env g'.pool g'.phase.hand wakes := by
  induction hs with
  | refl => exact h
  | tail hs st ih =>
    obtain ⟨ho', hord'⟩ := ordered_invariant.seeks hs ho hord
    exact ih.seek st ho' hord'

/-- A turn that ends with a wait begins one that is covered. -/
theorem of_sleep {e : Env} {p : Pool} {a : Acquire} {wait : Span}
    (hs : Seeks n raised g ⟨e, p, .ended (.sleep a wait)⟩) (hstart : g.phase.Starts)
    (ho : Owned g.env g.pool (g.pool.live g.phase.hand)) (hord : Ordered g.env g.pool)
    (hfit : g.pool.settings.problem? = none) : Covered e p none (e.now + wait) := by
  obtain ⟨g₁, hs₁, st⟩ := hs.last hstart
  obtain ⟨-, hord₁, hfit₁⟩ :=
    (ordered_invariant.and World.fit_invariant).seeks hs₁ ho ⟨hord, hfit⟩
  cases st with
  | sleep h _ hw =>
    have hcovered := Covered.sleep hfit₁ hord₁ h hw
    exact ⟨hcovered.isOpen, hcovered.idle, hcovered.soon, hcovered.inTime, hcovered.slot⟩

end Covered

namespace World

variable {S : Type} [Bench S]

/-- The wait of every blocked acquire that was not woken is covered by the pool it waits for. -/
theorem Reachable.covered {w : World S} (hw : Reachable w) {v : Waiter} (hv : v ∈ w.waiters)
    (hblocked : v.woken = false) :
    ∃ p began wait, w.pools[v.site]? = some p ∧ v.deadline = Instant.deadline began wait ∧
      Covered w.env p none (began + wait) := by
  induction hw with
  | refl => exact absurd hv List.not_mem_nil
  | @tail w w' hw hs ih =>
    replace hw : Reachable w := hw
    cases hs.shift with
    | aside hb hp =>
      obtain ⟨p, began, wait, hp', hd, h⟩ := ih (hb.waiting v hv hblocked)
      exact ⟨p, began, wait, hp ▸ hp', hd, h.later hb.env.now⟩
    | create settings target hset hb hp =>
      obtain ⟨p, began, wait, hp', hd, h⟩ := ih (hb.waiting v hv hblocked)
      exact ⟨p, began, wait, pools_append_of_some hp hp', hd, h.later hb.env.now⟩
    | @turn n raised q q' phase turn ticket hn hp hphase hseeks hg hwaits =>
      have hown : Owned w.env q (q.live phase.hand) := hphase.hand ▸ hw.owners.owned n q hn
      have hord : Ordered w.env q := hw.pool ordered_invariant hn
      have hself : w'.pools[n]? = some q' := pools_set_self hn hp
      rcases hwaits v hv hblocked with hv | ⟨hsite, a, wait, rfl, hd⟩
      · obtain ⟨p, began, wait, hp', hd, h⟩ := ih hv
        by_cases hsite : v.site = n
        · rw [hsite, hn] at hp'
          cases hp'
          refine ⟨q', began, wait, hsite ▸ hself, hd, ?_⟩
          exact Covered.seeks hseeks hown hord (hphase.hand.symm ▸ h)
        · have hsame := pools_set_of_ne hp hsite hp'
          exact ⟨p, began, wait, hsame, hd, h.later hseeks.grows.now⟩
      · refine ⟨q', w'.env.now, wait, hsite ▸ hself, hd, ?_⟩
        exact Covered.of_sleep hseeks hphase hown hord (hw.pool fit_invariant hn)
    | @yield n who q q' hb hn hp hgave hy hasleep =>
      obtain ⟨p, began, wait, hp', hd, h⟩ := ih (hb.waiting v hv hblocked)
      have hsame := pools_set_of_ne hp (hasleep v hv hblocked) hp'
      exact ⟨p, began, wait, hsame, hd, h.later hb.env.now⟩

/-- Let the clock reach the end of every wait that the settings allow for. Then a blocked acquire
that was not woken (in a settled world, every blocked acquire) waits for an open pool without idle
connections, and for a limited time: until a millisecond after the oldest checkout is overdue at
most, or, if there is room for another checkout, for less than another millisecond. -/
theorem waiters_wake_in_time {w : World S} (hw : Reachable w)
    (hclock : ∀ site ∈ w.sites, w.env.now + site.pool.settings.longestWait < Instant.limit)
    {v : Waiter} (hv : v ∈ w.waiters) (hblocked : v.woken = false) :
    ∃ site, w.sites[v.site]? = some site ∧ site.pool.closed = false ∧ site.pool.idle = [] ∧
      ∃ wakes, v.deadline = some wakes ∧
        (site.pool.active.length = site.pool.settings.maxActive ∧
            (∃ r start, site.pool.active.head? = some r ∧
              (site.pool.handle r).data.checkoutAt = some start ∧
              wakes ≤ start + site.pool.settings.checkoutTimeout + Span.milli) ∨
          site.pool.active.length < site.pool.settings.maxActive ∧
            wakes < w.env.now + Span.milli) := by
  obtain ⟨p, began, wait, hp, hd, h⟩ := hw.covered hv hblocked
  obtain ⟨site, hsite, rfl⟩ := Option.map_eq_some_iff.1 (List.getElem?_map ▸ hp)
  have hin : began + wait < Instant.limit :=
    Nat.lt_of_le_of_lt h.soon (hclock site (List.mem_of_getElem? hsite))
  refine ⟨site, hsite, h.isOpen, h.idle, began + wait, hd.trans (if_pos hin), ?_⟩
  have hle : site.pool.active.length ≤ site.pool.settings.maxActive := by
    have hbound := (hw.pool bounded_invariant hp).total
    rw [h.idle] at hbound
    change 0 + site.pool.active.length ≤ site.pool.settings.maxActive at hbound
    rwa [Nat.zero_add] at hbound
  rcases Nat.lt_or_eq_of_le hle with hroom | hfull
  · exact .inr ⟨hroom, h.slot (.inr hroom)⟩
  · refine .inl ⟨hfull, ?_⟩
    have hpos : 0 < site.pool.active.length :=
      hfull ▸ Settings.maxActive_pos (hw.pool fit_invariant hp)
    obtain ⟨r, rest, ha⟩ := List.exists_cons_of_length_pos hpos
    have hr : r ∈ site.pool.active := ha ▸ List.mem_cons_self ..
    obtain ⟨start, hstart, -⟩ := (hw.pool ordered_invariant hp).started r hr
    exact ⟨r, start, by rw [ha]; rfl, hstart, h.inTime r hr start hstart⟩

/-- A caller closes the only connection and keeps it for too long. A second acquire waits for it; a
third one takes it over, finds it closed and fails, and wakes no one. -/
def slotFreed : World Scripted :=
  runAll {} [
    .create {} {
      settings := { maxActive := 1, maxIdle := 0, badTolerance := 0, checkoutTimeout := 2 }
      target := { url := "db" } },
    .acquire 0 .ordinary false, .withConnection 0 (.tell .close), .acquire 0 .ordinary false,
    .advance 3, .acquire 0 .ordinary false]

/-- The slot is free, and the second acquire is asleep for less than another millisecond. -/
theorem waiters_wake_in_time_free_slot :
    slotFreed.sites.map (·.pool.active) = [[]] ∧
      ∃ v ∈ slotFreed.waiters, ∃ wakes, v.deadline = some wakes ∧
        wakes < slotFreed.env.now + Span.milli := by
  have hclock : ∀ site ∈ slotFreed.sites,
      slotFreed.env.now + site.pool.settings.longestWait < Instant.limit := by decide +kernel
  obtain ⟨v, hv, hblocked⟩ : ∃ v ∈ slotFreed.waiters, v.woken = false := by decide +kernel
  have hfree : ∀ site ∈ slotFreed.sites, site.pool.active = [] := by decide +kernel
  obtain ⟨site, hsite, -, -, wakes, hd, h⟩ :=
    waiters_wake_in_time (Reachable.runAll .refl _) hclock hv hblocked
  have ha := hfree site (List.mem_of_getElem? hsite)
  refine ⟨by decide +kernel, v, hv, wakes, hd, ?_⟩
  rcases h with ⟨-, r, start, hr, -⟩ | ⟨-, hsoon⟩
  · rw [ha] at hr
    exact nomatch hr
  · exact hsoon

end World

end ConnPool
