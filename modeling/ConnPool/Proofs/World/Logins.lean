import ConnPool.Proofs.Pool.Isolated
import ConnPool.Proofs.World.Invariant

/-!
# Logins of idle connections

An acquire may ask for a login of its own. A connection that is opened for it is closed on return,
since its handle is bound to another endpoint than the pool expects; so it should never serve an
acquire that asks for no login. It can, in one way (`foreign_login_served`): the checkout lasts too
long, an ordinary acquire takes the connection over, and the new handle is bound to the endpoint of
the target.

**Theorem (`idle_logins`).** There is no other way. An idle connection was opened for the login of
the target, unless it was taken over from its first handle and that was bound to another login.
-/

namespace ConnPool.World

open Pool

theorem isolated_invariant : PoolInvariant Isolated where
  empty {n e settings target} _ := .empty n e settings target
  later he h := h.lessen rfl rfl rfl (fun _ => rfl) (fun _ _ => rfl) (fun _ _ => rfl)
    (fun _ hs => hs) (fun _ hs => hs) (fun _ _ hs => nomatch hs) fun _ hc => he.calls.subset hc
  seek st ho h := h.seek st ho
  yield y ho hidle h := h.yield y ho hidle

variable {S : Type} [Bench S]

/-- Every idle connection was opened for the url of the target. It was opened for the endpoint of
the target, unless it was taken over from its first handle, and that was bound to another one. -/
theorem idle_logins {w : World S} (hw : Reachable w) {n : Nat} {site : Site S}
    (hn : w.sites[n]? = some site) {r : Ref} (hr : r ∈ site.pool.idle) :
    let p := site.pool
    let raw := (p.handle r).raw
    let first := p.handle (p.firstOf r)
    ⟨n, raw.conn, .connect raw.target (.ok ())⟩ ∈ w.env.calls ∧
      raw.target.url = p.target.url ∧
      first.raw = raw ∧
      (raw.target.endpoint ≠ p.target.endpoint ↔
        first.data.state = .reclaimed ∧ first.data.endpoint ≠ p.target.endpoint) := by
  intro p raw first
  have ho : Owned w.env p (p.live none) := hw.owners.owned n p (pools_getElem? hn)
  have h : Isolated n w.env p none := hw.pool isolated_invariant (pools_getElem? hn)
  have hlive : r ∈ p.live none := mem_live_of_idle hr
  have hlt : r < p.handles.length := ho.lt hlive
  obtain ⟨hfirst, hconn⟩ := firstOf_spec hlt
  have hraw : first.raw = raw := ho.raw_eq _ hfirst.1 r hlt (.inr hconn)
  have hbound : first.data.endpoint = raw.target.endpoint := by
    rw [← hraw]
    exact h.first _ hfirst
  refine ⟨h.opened r hlive, h.url r hlive, hraw, fun hne => ?_, fun hne => hbound ▸ hne.2⟩
  refine ⟨?_, hbound ▸ hne⟩
  rcases h.origin r hlive with htarget | hself | ⟨s, hs, hsconn, -, hstate⟩
  · exact absurd htarget hne
  · exact absurd hself (h.idle r hr)
  · have heq : s = p.firstOf r := hs.eq hfirst (hsconn.trans hconn.symm)
    change (p.handle (p.firstOf r)).data.state = .reclaimed
    rw [← heq]
    exact hstate

/-- A connection was opened for another login, taken over, and returned. -/
def foreignReturned : World Scripted :=
  runAll {} [
    .create {} {
      settings := { maxActive := 1, checkoutTimeout := 0 }
      target := { url := "db", username := some "app", password := some "secret" } },
    .acquire 0 (.loggedIn "reporting" "pw") false, .advance 1, .acquire 0 .ordinary false,
    .act (.release 1)]

/-- It lies in the idle list, and was taken over from its first handle. -/
theorem idle_logins_foreign :
    ∃ site ∈ foreignReturned.sites[0]?, 2 ∈ site.pool.idle ∧
      (site.pool.handle 2).raw.target.endpoint ≠ site.pool.target.endpoint ∧
      (site.pool.handle (site.pool.firstOf 2)).data.state = .reclaimed := by
  obtain ⟨site, hn, hr, hforeign⟩ : ∃ site ∈ foreignReturned.sites[0]?, 2 ∈ site.pool.idle ∧
      (site.pool.handle 2).raw.target.endpoint ≠ site.pool.target.endpoint := by decide +kernel
  obtain ⟨-, -, -, hiff⟩ := idle_logins (Reachable.runAll .refl _) hn hr
  exact ⟨site, hn, hr, hforeign, (hiff.1 hforeign).1⟩

/-- An acquire that asks for no login gets it from there. -/
theorem foreign_login_served :
    ((foreignReturned.stepped (.acquire 0 .ordinary false)).held? 2).map
      (fun h => h.2.2.raw.target.username) = some (some "reporting") := by
  decide +kernel

end ConnPool.World
