import ConnPool.Proofs.Pool.Clean
import ConnPool.Proofs.World.Deals

/-!
# What a caller leaves behind

A caller may leave statements pending on a connection, and may go on using it past the pool when it
is not the caller's any more. Whatever callers do, whoever gets the connection next finds nothing of
it, and the pool itself never commits anything: what a caller left is rolled back, or lost with the
connection.

**Theorem (`handed_out_clean`).** It holds of every pool over connections without a database, from
the moment at which the backend has no connection yet.
-/

namespace ConnPool.World

open Pool

/-- A critical section is an operation of the pools: an acquire has a turn, or a handle is given
back, or a pool is told something. -/
inductive Operates {S : Type} [Bench S] (w w' : World S) : Prop
  | demand (m : Nat) (d : Demand) (hm : (w.site? m).isSome = true) (h : w.demand m d = some w')
  | resume (v : Waiter) (hv : v ∈ w.waiters) (h : w' = w.resume v)
  | act (action : Action (Bench.Order S)) (answer : Answer) (h : w.act action = some (answer, w'))
  | dropPool (m : Nat) (h : w.dropPool m = some w')

/-- What an operation has to do with a pool. -/
theorem Operates.deals {S : Type} [Bench S] {w w' : World S} {n : Nat} {site : Site S}
    (hw : Reachable w) (h : Operates w w') (hn : w.sites[n]? = some site) :
    w'.SceneAt n (Deals n w w' (w.scene n site)) := by
  cases h with
  | demand m d hm h =>
    obtain ⟨site₀, hsite⟩ := Option.isSome_iff_exists.1 hm
    exact demand_deals hn
      (List.getElem?_eq_some_iff.1 (Option.filter_eq_some_iff.1 hsite).1).1 h
  | resume v hv h => exact h ▸ resume_deals hn hv (hw.queued.site v hv) (hw.queued.waiting v hv)
  | act action answer h => exact act_deals hn h
  | dropPool m h => exact dropPool_deals hn h

/-- How many commits there were on a connection of pool `n`. -/
def commits (w : World Mock) (n conn : Nat) : Nat :=
  (w.sites[n]?.map fun site => site.backend.commits conn).getD 0

/-- The backend of pool `n` is kept. -/
def Keeps (w : World Mock) (n : Nat) : Prop :=
  w.SceneAt n fun s => s.backend.Kept s.pool.attempts

variable {w w₁ w' : World Mock} {n : Nat}

theorem order_keeping (order : Bench.Order Mock) (s : Scene Mock) (reply : OrderReply)
    (backend : Mock) (h : Bench.obey order s.backend = some (reply, backend)) :
    Keeping s { s with backend } := by
  intro hk
  obtain ⟨hkept, hcommits⟩ := Mock.obey_keeps h
  exact ⟨hkept hk, hcommits⟩

/-- Whatever happens, statements are pending outside auto-commit only. -/
theorem Keeps.section (hw : Reachable w) (hs : Section w w') (h : w.Keeps n) : w'.Keeps n := by
  obtain ⟨site, hn, hk⟩ := h
  refine (hs.meets hw hn).mono fun s' hmeets => ?_
  rcases hmeets with hd | ⟨-, hu⟩
  · exact (hd.keeps upkeep_keeping order_keeping hk).1
  · cases hu with
    | ask conn question => exact (upkeep_keeping.ask conn question _ hk).1
    | tell conn command =>
      have hback := Talk.tell_backend conn command (w.scene n site).toLine
      change Mock.Kept _
        ((Talk.tell conn command : Attempt Mock Unit).run (w.scene n site).toLine).2.backend
      rw [hback]
      exact hk.tell conn command

theorem Keeps.sections (hw : Reachable w₁) (hs : Sections w₁ w) (h : w₁.Keeps n) : w.Keeps n := by
  induction hs with
  | refl => exact h
  | tail hs st ih => exact Keeps.section (hw.trans hs) st ih

/-- An operation commits nothing. -/
theorem commits_operates (hw : Reachable w) (hk : w.Keeps n) (h : Operates w w') (conn : Nat) :
    w'.commits n conn = w.commits n conn := by
  obtain ⟨site, hn, hk⟩ := hk
  obtain ⟨site', hn', hd⟩ := h.deals hw hn
  have hcommits := (hd.keeps upkeep_keeping order_keeping hk).2 conn
  rw [commits, commits, hn, hn']
  exact hcommits

/-- A handle that comes into the hands of a caller is around a clean connection. -/
theorem clean_handsOut (hw : Reachable w) (hk : w.Keeps n) (hs : Section w w') {t : Nat} {r : Ref}
    (h : HandsOut n t r w w') :
    ∃ site, w'.sites[n]? = some site ∧ site.backend.Clean (site.pool.connOf r) := by
  obtain ⟨site, hn, hk⟩ := hk
  obtain ⟨site', hn', a, s, hkeeps, hfit, heq⟩ := hs.handsOut upkeep_keeping hw hn h
  refine ⟨site', hn', ?_⟩
  have hclean := isFit_clean (hkeeps hk).1 hfit
  have hpool : site'.pool = s.pool.handedOut a r (isFit r s).2.env.now := by
    have hpool : site'.pool = (isFit r s).2.pool.handedOut a r (isFit r s).2.env.now :=
      congrArg Scene.pool heq
    rw [hpool, (isFit_judges r s).1.pool]
  have hbackend : site'.backend = (isFit r s).2.backend := congrArg (·.backend) heq
  have hconn : (s.pool.handedOut a r (isFit r s).2.env.now).connOf r = s.pool.connOf r :=
    congrArg Raw.conn (part_withHandle Handle.raw s.pool r r fun _ => rfl)
  rw [hpool, hbackend, hconn]
  exact hclean

/-- What callers find and what becomes of what they leave, at pool `n`. -/
structure Hygienic (n : Nat) (w w' : World Mock) : Prop where
  /-- A connection that comes into the hands of a caller is not closed and has nothing pending. -/
  clean : ∀ t r, HandsOut n t r w w' →
    ∃ site, w'.sites[n]? = some site ∧ site.backend.Clean (site.pool.connOf r)
  /-- No operation commits anything. -/
  commits : Operates w w' → ∀ conn, w'.commits n conn = w.commits n conn

/-- Callers get clean connections, and the pool commits nothing, whatever callers do to the backend
and to connections past the pool. -/
theorem handed_out_clean (hw : Reachable w₁) {site : Site Mock} (hn : w₁.sites[n]? = some site)
    (hfresh : site.backend.connections = []) (hrun : Sections w₁ w) (hs : Section w w') :
    Hygienic n w w' := by
  have hkept : w₁.Keeps n := by
    refine ⟨site, hn, fun conn _ => ?_, fun conn k hk => ?_⟩
    · change site.backend.get? conn = none
      rw [Mock.get?, hfresh]
      rfl
    · change site.backend.get? conn = some k at hk
      rw [Mock.get?, hfresh] at hk
      cases hk
  have hkept := Keeps.sections hw hrun hkept
  exact ⟨fun t r h => clean_handsOut (hw.trans hrun) hkept hs h,
    fun h => commits_operates (hw.trans hrun) hkept h⟩

/-- A caller leaves a statement pending, and gives the handle up. The next caller gets the same
connection. -/
theorem handed_out_clean_second :
    let w₁ : World Mock := runAll {} [.create {} { settings := {}, target := Mock.target }]
    let w := runAll w₁ [
      .acquire 0 .ordinary false, .withConnection 0 (.tell (.setAutoCommit false)),
      .withConnection 0 (.tell (.execute "insert")), .act (.release 0)]
    let w' := w.start 0 none none
    w'.sites.map (·.pool.attempts) = [1] ∧ HandsOut 0 1 1 w w' ∧ Operates w w' ∧
      Hygienic 0 w w' := by
  intro w₁ w w'
  have hstart : Section w w' := .start 0 .ordinary (by decide +kernel) rfl
  have hnew : w₁.sites[0]? = some { pool := .empty {} Mock.target, backend := {} } := by rfl
  exact ⟨by decide +kernel, by decide +kernel, .demand 0 .ordinary (by decide +kernel) rfl,
    handed_out_clean (Reachable.runAll .refl _) hnew rfl (runAll_sections w₁ _) hstart⟩

end ConnPool.World
