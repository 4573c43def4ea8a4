import ConnPool.Proofs.Pool.Called
import ConnPool.Proofs.World.Custody
import ConnPool.Proofs.World.Happens
import ConnPool.Proofs.World.Retired

/-!
# Which connections a critical section calls

A call to a connection comes from a turn of an acquire, from an operation of a pool, from a handle,
or from a caller who uses the raw connection past the pool. The first three end at connections that
are in the lists of the pool, because the handles that callers still have of others are retired.

* `Reachable.listed_of_valid`: the handles that are not retired.
* `calls_of_release`: the handles that are.

**Theorem (`Section.callsOnly`).** A connection that was opened before and is in no list of its pool
is not called, unless a caller uses it past the pool.
-/

namespace ConnPool.World

open Pool

variable {S : Type} [Bench S] {w w' : World S} {n conn : Nat}

/-- From world `w` to `w'` connection `conn` of pool `n` may be called: it is in the lists of the
pool, or is a new one, or a caller uses it past the pool. -/
def MayCall (w w' : World S) (n conn : Nat) : Prop :=
  conn ∈ w.listed n ∨ ¬w.env.Opened n conn ∨ UsesRaw n conn w w'

variable {p p' : Pool} {e : Env}

theorem callsOnly_of_seeks {raised : Bool} {phase : Phase} {turn : Turn} (hw : Reachable w)
    (hn : w.pools[n]? = some p) (hphase : phase.Starts)
    (hs : Seeks n raised ⟨w.env, p, phase⟩ ⟨e, p', .ended turn⟩) :
    w.env.CallsOnly (MayCall w w') e := by
  have ho : Owned w.env p (p.live phase.hand) := hphase.hand ▸ hw.owners.owned n p hn
  have hnum : Numbered n w.env p.attempts := attemptsOf_eq hn ▸ hw.numbered n
  refine (hs.callsOnly ho hnum).mono fun m conn => ?_
  rintro ⟨rfl, hin | hnew⟩
  · refine .inl ?_
    rw [listed_eq hn]
    rwa [hphase.hand] at hin
  · exact .inr (.inl hnew)

theorem callsOnly_of_yield {who : Handback} (hw : Reachable w) (hn : w.pools[n]? = some p)
    (hy : Yield n who w.env p e p')
    (hvalid : ∀ r, who = .release r → (p.handle r).valid = true) :
    w.env.CallsOnly (MayCall w w') e := by
  refine .of_talksTo (hy.talks (hw.owners.owned n p hn) hvalid) fun conn hconn => .inl ?_
  rwa [listed_eq hn]

/-- The connection of a valid handle that a caller has is in the lists of its pool. -/
theorem Reachable.listed_of_valid (hw : Reachable w) {t : Nat} {r : Ref} {h : Handle}
    (hh : w.held? t = some (n, r, h)) (hv : h.valid = true) : h.raw.conn ∈ w.listed n := by
  obtain ⟨-, site, hn, rfl⟩ := held?_eq_some hh
  rw [listed_eq (pools_getElem? hn)]
  exact mem_conns_of_valid (hw.owners.owned n _ (pools_getElem? hn)) hv

/-- The return of a retired handle is counted, and no connection is called. -/
theorem calls_of_release {t : Nat} {r : Ref} {h : Handle} {answer : Answer} (hw : Reachable w)
    (hh : w.held? t = some (n, r, h)) (hv : h.valid = false)
    (ha : w.act (.release t) = some (answer, w')) : w'.env.calls = w.env.calls := by
  obtain ⟨site, -, hreturn⟩ := (retired_fenced hw hh hv).release
  obtain ⟨-, rfl⟩ := Prod.mk.inj (Option.some.inj (ha.symm.trans hreturn))
  rfl

/-- A critical section calls no connection that it may not call. -/
theorem Section.callsOnly (hs : Section w w') (hw : Reachable w) :
    w.env.CallsOnly (MayCall w w') w'.env := by
  cases hs.happens hw with
  | aside h => exact .of_calls h.calls
  | signal _ he => exact .of_calls (congrArg Env.calls he)
  | @talk m conn site s hn hchats hw' hconn =>
    have he : w'.env = s.env := by rw [hw']; rfl
    rw [he]
    refine .of_talksTo (.of_later hchats.env) fun c hc => ?_
    rw [List.mem_singleton.1 hc]
    rcases hconn with ⟨t, r, h, hh, hv, rfl⟩ | hraw
    · exact .inl (hw.listed_of_valid hh hv)
    · exact .inr (.inr hraw)
  | @yield m site who s hn hy hw' hr =>
    have he : w'.env = s.env := by rw [hw']; rfl
    by_cases hvalid : ∀ r, who = .release r → (site.pool.handle r).valid = true
    · rw [he]
      exact callsOnly_of_yield hw (pools_getElem? hn) hy hvalid
    · obtain ⟨r, hwho, hv⟩ : ∃ r, who = .release r ∧ (site.pool.handle r).valid = false := by
        simpa using hvalid
      obtain ⟨t, hh, ha⟩ := hr r hwho
      exact .of_calls (calls_of_release hw hh hv ha)
  | @turn _ _ _ site _ turn s _ _ hn hphase hseeks _ hw' =>
    have he : w'.env = s.env := by rw [hw']; cases turn <;> rfl
    rw [he]
    exact callsOnly_of_seeks hw (pools_getElem? hn) hphase hseeks

end ConnPool.World
