import ConnPool.Proofs.Pool.Calls
import ConnPool.Proofs.Pool.Tally

/-!
# How a connection is judged

A connection is judged by what it answers at the time: the probe comes first, and a rollback where
something may be pending. `probed` and `cleared` are what comes of the two in a scene, so that it
can be said beforehand how an act of the pool will take a connection.

**Theorem (`isFit_iff`).** A candidate is handed out just if its handle is valid, the probe finds
nothing wrong, and it is left with nothing pending.
-/

namespace ConnPool.Pool

variable {S : Type} [Backend S] {r : Ref} {s : Scene S}

/-- What a probe of the connection finds, and what it leaves. -/
def probed (r : Ref) (s : Scene S) : Verdict × Line S :=
  (Probe.ofSettings s.pool.settings).examine (s.pool.connOf r)
    ((s.pool.handle r).data.unusedFor s.env.now) s.toLine

/-- How it ends to leave nothing pending on the connection after the probe, and what that leaves. -/
def cleared (r : Ref) (s : Scene S) : Except Fault Unit × Line S :=
  (Talk.clearPending (s.pool.connOf r) : Attempt S Unit).run (probed r s).2

theorem isSound_of_healthy (hv : (s.pool.handle r).valid = true)
    (h : (probed r s).1.healthy = true) :
    isSound r s = (true, { s with toLine := (probed r s).2 }) := by
  have hsound : (isSound r s).1 = true := by
    rw [isSound_answer, hv]
    exact h
  exact Prod.ext hsound (isSound_true hsound).2

theorem isCleared_answer (r : Ref) (s : Scene S) :
    (isCleared r s).1 = true ↔
      ((Talk.clearPending (s.pool.connOf r) : Attempt S Unit).run s.toLine).1 = .ok () := by
  refine ⟨fun h => (isCleared_true h).1, fun h => ?_⟩
  unfold isCleared
  rw [bind_run, handleAt_run, bind_run, talk_run]
  dsimp only
  rw [h]
  rfl

/-- The connection may be handed out. -/
structure Usable (r : Ref) (s : Scene S) : Prop where
  valid : (s.pool.handle r).valid = true
  healthy : (probed r s).1.healthy = true
  cleared : (Pool.cleared r s).1 = .ok ()

theorem isFit_iff (r : Ref) (s : Scene S) : (isFit r s).1 = true ↔ Usable r s := by
  unfold isFit
  rw [bind_run]
  cases hsound : (isSound r s).1 with
  | false =>
    refine ⟨fun h => absurd h Bool.false_ne_true, fun h => ?_⟩
    rw [isSound_of_healthy h.valid h.healthy] at hsound
    exact nomatch hsound
  | true =>
    obtain ⟨hhealthy, hafter⟩ := isSound_true hsound
    have hv : (s.pool.handle r).valid = true := (isSound_judges r s).2 hsound
    have hclear := isCleared_answer r (isSound r s).2
    rw [hafter] at hclear
    change (isCleared r (isSound r s).2).1 = true ↔ _
    rw [hafter, hclear]
    exact ⟨fun h => ⟨hv, hhealthy, h⟩, fun h => h.cleared⟩

/-- A probe that finds nothing wrong leaves the connection open. -/
theorem probed_utters (h : (probed r s).1.healthy = true) :
    (probed r s).2.site = s.site ∧ ∃ said,
      s.env.Through said (probed r s).2.env ∧ closeCalls said = 0 := by
  obtain ⟨hsite, said, hsaid, hcalls⟩ :=
    Talk.examine_utters (Probe.ofSettings s.pool.settings) s.site (s.pool.connOf r)
      ((s.pool.handle r).data.unusedFor s.env.now) s.toLine rfl
  exact ⟨hsite, said, hsaid, hcalls.closeCalls_eq h⟩

theorem probed_later (r : Ref) (s : Scene S) :
    s.env.Later s.site [s.pool.connOf r] (probed r s).2.env :=
  (Talk.concerns_examine (Probe.ofSettings s.pool.settings) (s.pool.connOf r)
    ((s.pool.handle r).data.unusedFor s.env.now) s.toLine).2

end ConnPool.Pool
