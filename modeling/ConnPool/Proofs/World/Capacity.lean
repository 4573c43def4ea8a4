import ConnPool.Proofs.Pool.Bounded
import ConnPool.Proofs.World.Invariant

/-!
# The limits of a pool

**Theorem (`pools_within_limits`).** Between critical sections the connections of a pool are never
more than its settings allow, whichever settings are in force. A change of the settings gives all
connections up, so the limits may be lowered at any time.
-/

namespace ConnPool.World

open Pool

/-- The settings of a pool are fit for use. -/
theorem fit_invariant : PoolInvariant fun _ _ p _ => p.settings.problem? = none where
  empty hs := hs
  later _ h := h
  seek st _ h := st.settings ▸ h
  yield y _ _ h := y.fit h

theorem bounded_invariant : PoolInvariant fun _ _ p hand => Bounded p hand where
  empty _ := .of_empty rfl rfl
  later _ h := h
  seek st _ h := h.seek st
  yield y ho hidle h := h.yield y ho hidle

variable {S : Type} [Bench S]

/-- In every reachable world each pool keeps within its limits. -/
theorem pools_within_limits {w : World S} (hw : Reachable w) :
    ∀ site ∈ w.sites,
      site.pool.active.length + site.pool.idle.length ≤ site.pool.settings.maxActive ∧
        site.pool.idle.length ≤ site.pool.settings.maxIdle := by
  intro site hsite
  obtain ⟨n, hn⟩ := List.mem_iff_getElem?.1 hsite
  have h := hw.pool bounded_invariant (pools_getElem? hn)
  refine ⟨?_, h.idle⟩
  have htotal := h.total
  change 0 + site.pool.active.length + site.pool.idle.length ≤ _ at htotal
  omega

/-- The limits are lowered while all three connections are out and an acquire waits. The acquire is
served from the new limits, and the connection that comes back last is not kept. -/
theorem pools_within_limits_lowered :
    let w : World Scripted := runAll {} [
      .create {} { settings := { maxActive := 3 }, target := { url := "db" } },
      .acquire 0 .ordinary false, .acquire 0 .ordinary false, .acquire 0 .ordinary false,
      .acquire 0 .ordinary false, .act (.change 0 (.maxActive 1)), .act (.release 0)]
    (w.sites.map fun site => (site.pool.active, site.pool.settings.maxActive)) = [([3], 1)] ∧
      ∀ site ∈ w.sites,
        site.pool.active.length + site.pool.idle.length ≤ site.pool.settings.maxActive ∧
          site.pool.idle.length ≤ site.pool.settings.maxIdle :=
  ⟨by decide +kernel, pools_within_limits (Reachable.runAll .refl _)⟩

end ConnPool.World
