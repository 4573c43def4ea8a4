import ConnPool.Proofs.World.Ownership

/-!
# Invariants of pools

A property of a pool and its environment that turns and operations preserve is true of every pool in
every reachable world (`Reachable.pool`). To show that something preserves it, the owners of the
pool may be taken as known, and that a handle which is given back is not idle.
-/

namespace ConnPool

open Pool World

/-- A property of a pool, of the environment and of the candidate in the hand of an acquire, which
nothing that happens to the pool can break. -/
structure PoolInvariant (I : Nat → Env → Pool → Option (Acquire × Ref) → Prop) : Prop where
  empty : ∀ {n e settings target}, settings.problem? = none → I n e (.empty settings target) none
  later : ∀ {n e e' p}, e.Grows e' → I n e p none → I n e' p none
  seek : ∀ {n raised g g'}, Seek n raised g g' →
    Owned g.env g.pool (g.pool.live g.phase.hand) → I n g.env g.pool g.phase.hand →
      I n g'.env g'.pool g'.phase.hand
  yield : ∀ {n who e e' p p'}, Yield n who e p e' p' → Owned e p (p.live none) →
    (∀ r ∈ who.ref?, r ∉ p.idle) → I n e p none → I n e' p' none

namespace PoolInvariant

variable {I : Nat → Env → Pool → Option (Acquire × Ref) → Prop}

/-- What each step preserves, a turn preserves. -/
theorem seeks (hI : PoolInvariant I) {n : Nat} {raised : Bool} {g g' : Stage}
    (hs : Seeks n raised g g') (ho : Owned g.env g.pool (g.pool.live g.phase.hand))
    (h : I n g.env g.pool g.phase.hand) :
    Owned g'.env g'.pool (g'.pool.live g'.phase.hand) ∧ I n g'.env g'.pool g'.phase.hand := by
  induction hs with
  | refl => exact ⟨ho, h⟩
  | tail _ st ih => exact ⟨ih.1.seek st, hI.seek st ih.1 ih.2⟩

theorem and {J : Nat → Env → Pool → Option (Acquire × Ref) → Prop} (hI : PoolInvariant I)
    (hJ : PoolInvariant J) : PoolInvariant fun n e p hand => I n e p hand ∧ J n e p hand where
  empty hs := ⟨hI.empty hs, hJ.empty hs⟩
  later he h := ⟨hI.later he h.1, hJ.later he h.2⟩
  seek st ho h := ⟨hI.seek st ho h.1, hJ.seek st ho h.2⟩
  yield y ho hidle h := ⟨hI.yield y ho hidle h.1, hJ.yield y ho hidle h.2⟩

end PoolInvariant

variable {S : Type} [Bench S]

/-- An invariant of pools is true of every pool in every reachable world. -/
theorem World.Reachable.pool {I : Nat → Env → Pool → Option (Acquire × Ref) → Prop}
    (hI : PoolInvariant I) {w : World S} (hw : Reachable w) {n : Nat} {p : Pool}
    (hn : w.pools[n]? = some p) : I n w.env p none := by
  induction hw generalizing n p with
  | refl => simp [pools] at hn
  | @tail w w' hw hs ih =>
    have howners := Reachable.owners hw
    cases hs.shift with
    | aside hb hp => exact hI.later hb.env (ih (hp ▸ hn))
    | create settings target hset hb hp =>
      rcases pools_append_cases hp hn with rfl | hn
      · exact hI.empty hset
      · exact hI.later hb.env (ih hn)
    | @turn m raised q q' phase turn ticket hm hp hphase hseeks hg hv =>
      rcases pools_cases hm hp hn with ⟨rfl, rfl⟩ | hn
      · have ho : Owned w.env q (q.live phase.hand) := hphase.hand ▸ howners.owned n q hm
        have hq : I n w.env q phase.hand := hphase.hand ▸ ih hm
        exact (hI.seeks hseeks ho hq).2
      · exact hI.later hseeks.grows (ih hn)
    | @yield m who q q' hb hm hp hgave hy hv =>
      rcases pools_cases hm hp hn with ⟨rfl, rfl⟩ | hn
      · have hidle : ∀ r ∈ who.ref?, r ∉ q.idle := fun r hr =>
          (hgave r hr).elim fun t ht => (howners.lt_and_notMem_idle hm ht).2
        exact hI.yield hy (howners.owned n q hm) hidle (ih hm)
      · exact hI.later hb.env (ih hn)

end ConnPool
