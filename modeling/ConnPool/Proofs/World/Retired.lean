import ConnPool.Proofs.World.Ownership

/-!
# Retired handles

A handle that was taken over, or closed with its pool, stays in the hands of its caller. By then its
connection may be checked out by somebody else, or lie in the idle list, or be closed, so the handle
must not reach it any more. A return of the handle runs through the same code as any other return;
that nothing comes of it depends on the handle not being among the checkouts, which is true in every
reachable world and not in every world.

**Theorem (`retired_fenced`).** A retired handle is refused, and all it can do is to be counted.
-/

namespace ConnPool

open Pool

namespace Pool

variable {S : Type}

/-- The pool with one more bad connection counted. -/
def oneMoreBad (p : Pool) : Pool := { p with tally := { p.tally with bad := p.tally.bad + 1 } }

/-- A detach of a handle that is not checked out changes nothing. -/
theorem detach_of_notMem {r : Ref} {s : Scene S} (hr : r ∉ s.pool.active) :
    detach r s = (false, s) := by
  have howned : (s.pool.active.contains r && (s.pool.handle r).valid) = false := by simp [hr]
  unfold detach
  rw [bind_run, look_run, bind_run, update_run]
  simp only [howned, List.erase_of_not_mem hr]
  rfl

/-- The return of a retired handle that is not checked out is counted and changes nothing else. -/
theorem release_of_notMem [Backend S] {r : Ref} {s : Scene S} (hr : r ∉ s.pool.active)
    (hv : (s.pool.handle r).valid = false) :
    Ends (release r) s fun _ s' => s' = { s with
      env := s.env.note (.returnedBad (s.pool.handle r).raw.id)
      pool := s.pool.oneMoreBad } := by
  have herase : { s.pool with active := s.pool.active.erase r } = s.pool := by
    rw [List.erase_of_not_mem hr]
  have hsound : Ends (isSound r) s fun sound s' => sound = false ∧ s' = s := by
    rw [Ends, isSound_of_retired hv]
    exact ⟨rfl, rfl⟩
  refine .bind <| .update <| .bind ?_
  rw [herase]
  refine hsound.mono fun sound s' hsame => ?_
  obtain ⟨rfl, rfl⟩ := hsame
  refine .bind <| .handleAt <| .bind <| .note <| .bind <| .count ?_
  rw [if_neg (by simp [hv])]
  exact .pure rfl

end Pool

namespace World

variable {S : Type} [Bench S]

/-- What comes of everything that a caller can do with the handle `r` of pool `n`, which the caller
has from the acquire of ticket `t`: errors, and one more bad connection in the counts. -/
structure Fenced (w : World S) (t n : Nat) (r : Ref) (h : Handle) : Prop where
  /-- No call of the handle gets through. -/
  call : ∀ c, w.call t c = some (.refused .invalidated, w)
  withConnection : ∀ u, w.withConnection t u = some (.refused .invalidated, w)
  /-- A detach changes no pool. The handle is used up, and those who wait are woken for nothing. -/
  detach : w.act (.detach t) = some (.refused .invalidated, (w.spend t n r).wakeAll n)
  /-- A return is counted. It reaches neither the backend nor any list or handle of the pool. -/
  release : ∃ site, w.sites[n]? = some site ∧
    w.act (.release t) = some (.done,
      ({ w with
        env := w.env.note (.returnedBad h.raw.id)
        sites := w.sites.set n { site with pool := site.pool.oneMoreBad }
      }.spend t n r).wakeAll n)

/-- In every reachable world a handle that is not valid any more is fenced off. -/
theorem retired_fenced {w : World S} (hw : Reachable w) {t n : Nat} {r : Ref} {h : Handle}
    (hheld : w.held? t = some (n, r, h)) (hv : h.valid = false) : Fenced w t n r h := by
  obtain ⟨-, site, hn, rfl⟩ := held?_eq_some hheld
  have ho := hw.owners.owned n site.pool (pools_getElem? hn)
  have hr : r ∉ site.pool.active := fun ha =>
    Bool.false_ne_true (hv.symm.trans ((ho.valid r).2 (mem_live_of_active ha)))
  have hsame : w.sites.set n site = w.sites := by
    obtain ⟨hlt, rfl⟩ := List.getElem?_eq_some_iff.1 hn
    exact List.set_getElem_self hlt
  have hwith : ∀ u, w.withConnection t u = some (.refused .invalidated, w) := by
    intro u
    rw [World.withConnection, hheld, Option.bind_some]
    simp [hv]
  constructor
  case withConnection => exact hwith
  case call =>
    intro c
    rw [World.call, hwith]
    rfl
  case detach =>
    have hact : w.actOn n (Pool.detach r) = some (false, w) := by
      rw [actOn, hn, Option.map_some, detach_of_notMem hr]
      simp [hsame]
    rw [act, hheld, Option.bind_some]
    dsimp only
    rw [hact]
    rfl
  case release =>
    refine ⟨site, hn, ?_⟩
    rw [act, hheld, Option.bind_some]
    dsimp only
    have hrelease := release_of_notMem (s := w.scene n site) hr hv
    rw [actOn, hn, Option.map_some]
    exact congrArg (fun s => some (Answer.done, ((w.after n site s).spend t n r).wakeAll n))
      hrelease

/-- A checkout lasts too long, and another acquire takes the connection over. -/
def takenOverOnce : World Scripted :=
  runAll {} [
    .create {} { settings := { maxActive := 1, checkoutTimeout := 0 }, target := { url := "db" } },
    .acquire 0 .ordinary false, .advance 1, .acquire 0 .ordinary false]

/-- The first caller still holds a handle, which is fenced off from the connection. -/
theorem retired_fenced_takeOver :
    ∃ r h, takenOverOnce.held? 0 = some (0, r, h) ∧ Fenced takenOverOnce 0 0 r h := by
  obtain ⟨n, r, h, hheld, hn, hv⟩ : ∃ n r h, takenOverOnce.held? 0 = some (n, r, h) ∧ n = 0 ∧
      h.valid = false := by
    have hsome : (takenOverOnce.held? 0).isSome = true := by decide +kernel
    obtain ⟨⟨n, r, h⟩, hheld⟩ := Option.isSome_iff_exists.1 hsome
    have hfacts : ∀ x ∈ takenOverOnce.held? 0, x.1 = 0 ∧ x.2.2.valid = false := by decide +kernel
    exact ⟨n, r, h, hheld, hfacts _ hheld⟩
  subst hn
  exact ⟨r, h, hheld, retired_fenced (Reachable.runAll .refl _) hheld hv⟩

end World

end ConnPool
