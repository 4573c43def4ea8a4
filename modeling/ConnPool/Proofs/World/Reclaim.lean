import ConnPool.Backend.Scripted
import ConnPool.Proofs.Pool.Budget
import ConnPool.Proofs.World.Accounting
import ConnPool.Proofs.World.Courses
import ConnPool.Proofs.World.Waiting

/-!
# Checkouts that are taken over

An acquire takes a checkout over from its caller when there is no other way to serve it. It looks
at the first checkout only. That is the right one to look at because the checkouts stand in the
order in which they began, so none has lasted longer.

* `Yield.reclaimed`: an operation takes no checkout over.
* `Pool.Forfeit.victim`: the first checkout is the one that has lasted longest.

**Theorem (`reclaim_is_last_resort`).** A checkout is taken over in the turn of an acquire only, in
a pool that is full, and has lasted longest of all and too long. An acquire that waits leaves no
such checkout behind.
-/

namespace ConnPool

open Pool

/-! ## The victim -/

/-- The checkout of `r` is the one to take over: the pool is full, and no checkout has lasted
longer. -/
structure Pool.Victim (p : Pool) (t : Instant) (r : Ref) : Prop where
  active : r ∈ p.active
  idle : p.idle = []
  full : p.active.length = p.settings.maxActive
  overdue : p.settings.checkoutTimeout < (p.handle r).data.checkoutTime t
  oldest : ∀ s ∈ p.active, (p.handle s).data.checkoutTime t ≤ (p.handle r).data.checkoutTime t

/-- No checkout has lasted longer than the first one. -/
theorem Ordered.oldest {e : Env} {p : Pool} {r s : Ref} (h : Ordered e p)
    (hfirst : p.active.head? = some r) (hs : s ∈ p.active) (t : Instant) :
    (p.handle s).data.checkoutTime t ≤ (p.handle r).data.checkoutTime t := by
  obtain ⟨rest, ha⟩ := List.head?_eq_some_iff.1 hfirst
  obtain ⟨start, hstart, -⟩ := h.started r (List.mem_of_mem_head? hfirst)
  obtain ⟨start', hstart', -⟩ := h.started s hs
  rw [checkoutTime_eq hstart, checkoutTime_eq hstart']
  exact Nat.sub_le_sub_left (h.first_le ha hs hstart hstart') t

theorem Pool.Forfeit.victim {e : Env} {p : Pool} {r : Ref} (h : p.Forfeit e.now r)
    (hb : Bounded p none) (ho : Ordered e p) : p.Victim e.now r where
  active := h.mem
  idle := h.idle
  full := by
    have htotal := hb.total
    have hfull := h.full
    simp only [h.idle, Option.toList_none, List.length_nil] at htotal
    omega
  overdue := h.overdue
  oldest s hs := ho.oldest h.first hs e.now

/-! ## Operations -/

theorem Pool.stateOf_retireAll {p : Pool} {state : HandleState} {rs : List Ref} {s : Ref}
    (hstate : state ≠ .reclaimed) (h : (p.retireAll state rs).stateOf s = .reclaimed) :
    p.stateOf s = .reclaimed := by
  induction rs generalizing p with
  | nil => exact h
  | cons r rs ih => exact stateOf_retire hstate (ih h)

theorem Pool.stateOf_emptied {p : Pool} {s : Ref} (h : p.emptied.stateOf s = .reclaimed) :
    p.stateOf s = .reclaimed := by
  have hold := stateOf_retireAll HandleState.noConfusion h
  exact hold

/-- No operation takes a checkout over. -/
theorem Yield.reclaimed {n : Nat} {who : Handback} {e e' : Env} {p p' : Pool}
    (y : Yield n who e p e' p') {s : Ref} (h : p'.stateOf s = .reclaimed) :
    p.stateOf s = .reclaimed := by
  cases y with
  | spurn | letGo => exact h
  | discard | detach | close => exact stateOf_retire (by decide) h
  | @store _ _ r t e' =>
    have hadd : ((p.timed r t).withHandle r (·.retire .invalid)).stateOf s = .reclaimed :=
      stateOf_add (by simp [Metadata.rest]) h
    exact stateOf_retire (by decide) hadd
  | drain | change | shutDown =>
    have hold := stateOf_emptied h
    exact hold

/-! ## The ends of turns -/

/-- A turn that ends with a wait, or for lack of time, found nothing to serve the acquire with. -/
theorem Seeks.saturated {n : Nat} {raised : Bool} {g : Stage} {e : Env} {p : Pool} {turn : Turn}
    (hs : Seeks n raised g ⟨e, p, .ended turn⟩) (hstart : g.phase.Starts)
    (hturn : (∃ a d, turn = .sleep a d) ∨ ∃ a x, turn = .done a (.error (.timeout x))) :
    p.Saturated e.now := by
  obtain ⟨g₁, -, st⟩ := hs.last hstart
  rcases hturn with ⟨a, d, rfl⟩ | ⟨a, x, rfl⟩
  · cases st with
    | sleep h => exact ⟨h.isOpen, h.idle, h.full, h.fresh⟩
  · cases st with
    | timeOut h => exact ⟨h.isOpen, h.idle, h.full, h.fresh⟩

namespace World

variable {S : Type} [Bench S] {w w' : World S} {n t : Nat} {r : Ref} {p p' : Pool}

/-! ## Turns -/

omit [Bench S] in
/-- A checkout that is taken over in a turn is the victim, as the turn finds the pool. -/
theorem Course.victim {phase : Phase} {turn : Turn} (h : Course n t w w' p phase turn p')
    (ho : Ordered w.env p) (hold : p.stateOf r ≠ .reclaimed) (hnew : p'.stateOf r = .reclaimed) :
    p.Victim w.env.now r := by
  have hb : Bounded p none := h.starts.hand ▸ h.bounded
  cases hturn : turn.inVain with
  | true => exact absurd (((h.untouched hturn).stateOf r).symm.trans hnew) hold
  | false =>
    obtain ⟨gone, hsifts⟩ := h.sifts hturn
    have hgone : r ∈ gone := (hsifts.reclaimed r hnew).resolve_left hold
    exact (hsifts.forfeit r hgone).victim hb ho

/-- An acquire that waits, or has waited in vain, leaves the pool with all connections in use, and
with no checkout that has lasted too long. -/
theorem Course.busy {phase : Phase} {turn : Turn} (h : Course n t w w' p phase turn p')
    (hw' : Reachable w')
    (hturn : (∃ a d, turn = .sleep a d) ∨ ∃ a x, turn = .done a (.error (.timeout x))) :
    p'.Busy w'.env.now := by
  have hb := hw'.pool bounded_invariant h.after
  have ho := hw'.pool ordered_invariant h.after
  obtain ⟨raised, hseeks⟩ := h.seeks
  exact (hseeks.saturated h.starts hturn).busy hb ho

/-! ## The last resort -/

/-- Handle `r` of pool `n` was taken over from its caller. -/
def IsReclaimed (n : Nat) (r : Ref) (w : World S) : Prop :=
  ∃ p, w.pools[n]? = some p ∧ p.stateOf r = .reclaimed

/-- What a critical section means for the checkouts of pool `n` that have lasted too long. -/
structure LastResort (n : Nat) (w w' : World S) : Prop where
  victim : ∀ r, ¬IsReclaimed n r w → IsReclaimed n r w' →
    ∃ t p, TurnOf n t w w' ∧ w.pools[n]? = some p ∧ p.Victim w.env.now r
  waits : ∀ t x p', TurnOf n t w w' → w'.tickets[t]? = some x →
    (x = .waiting ∨ ∃ after, x = .failed (.timeout after)) → w'.pools[n]? = some p' →
      p'.Busy w'.env.now

theorem Section.victim (hs : Section w w') (hw : Reachable w) (hold : ¬IsReclaimed n r w)
    (hnew : IsReclaimed n r w') :
    ∃ t p, TurnOf n t w w' ∧ w.pools[n]? = some p ∧ p.Victim w.env.now r := by
  obtain ⟨p', hn', hnew⟩ := hnew
  cases hn : w.pools[n]? with
  | none =>
    obtain ⟨settings, target, rfl⟩ := (hs.blank hw hn).2 p' hn'
    exact absurd (lt_of_reclaimed hnew) (Nat.not_lt_zero r)
  | some p =>
    have hstate : p.stateOf r ≠ .reclaimed := fun h => hold ⟨p, hn, h⟩
    by_cases hturn : HasTurn n w w'
    · obtain ⟨t, ht⟩ := hturn
      obtain ⟨phase, turn, q, h⟩ := ht.course hw hn
      obtain rfl : q = p' := Option.some.inj (h.after.symm.trans hn')
      exact ⟨t, p, ht, rfl, h.victim (hw.pool ordered_invariant hn) hstate hnew⟩
    · obtain ⟨site, hsite, rfl⟩ := exists_site_of_pools hn
      obtain ⟨site', hsite', hyields⟩ := hs.yields hw hsite hturn
      obtain rfl : site'.pool = p' := Option.some.inj ((pools_getElem? hsite').symm.trans hn')
      rcases hyields with heq | ⟨who, -, hy⟩
      · exact absurd (heq ▸ hnew) hstate
      · exact absurd (hy.reclaimed hnew) hstate

theorem TurnOf.busy (ht : TurnOf n t w w') (hw : Reachable w) (hw' : Reachable w')
    (hn' : w'.pools[n]? = some p') {x : Ticket} (hx : w'.tickets[t]? = some x)
    (hwaits : x = .waiting ∨ ∃ after, x = .failed (.timeout after)) : p'.Busy w'.env.now := by
  cases hn : w.pools[n]? with
  | none => exact nomatch hn'.symm.trans (ht.pools_eq_none hw hn)
  | some p =>
    obtain ⟨phase, turn, q, h⟩ := ht.course hw hn
    obtain rfl : q = p' := Option.some.inj (h.after.symm.trans hn')
    obtain rfl : x = turn.ticket n := Option.some.inj (hx.symm.trans h.ticket)
    refine h.busy hw' ?_
    rcases hwaits with hwaiting | ⟨after, hfailed⟩
    · rcases turn with ⟨a, e | r⟩ | ⟨a, d⟩
      · exact nomatch hwaiting
      · exact nomatch hwaiting
      · exact .inl ⟨a, d, rfl⟩
    · obtain ⟨a, rfl⟩ := Turn.eq_of_failed hfailed
      exact .inr ⟨a, after, rfl⟩

/-- In every reachable state the checkouts of a pool stand in the order in which they began. In
every critical section that follows, a handle is taken over from its caller in the turn of an
acquire only. At that moment the pool has no idle connection and no room, the checkout has lasted
too long, and none has lasted longer. An acquire that goes on waiting, or has waited for too long,
leaves the pool with no checkout at all that has lasted too long. -/
theorem reclaim_is_last_resort (hw : Reachable w) (n : Nat) :
    (∀ p, w.pools[n]? = some p → Ordered w.env p) ∧
      ∀ w', Section w w' → LastResort n w w' := by
  refine ⟨fun p hn => hw.pool ordered_invariant hn, fun w' hs => ?_⟩
  have hw' : Reachable w' := hw.tail hs
  constructor
  case victim =>
    intro r hold hnew
    exact hs.victim hw hold hnew
  case waits =>
    intro t x p' ht hx hwaits hn'
    exact ht.busy hw hw' hn' hx hwaits

/-- All three connections of a pool are out for longer than they may be, one for longer than the
others. -/
def kept : World Scripted :=
  runAll {} [
    .create {} {
      settings := { maxActive := 3, checkoutTimeout := 5 }, target := { url := "db" } },
    .acquire 0 .ordinary false, .advance 2, .acquire 0 .ordinary false,
    .acquire 0 .ordinary false, .advance 9]

/-- The next acquire takes over the one that has been out for longest. -/
theorem reclaim_is_last_resort_kept :
    ∃ site, kept.sites[0]? = some site ∧ site.pool.active = [0, 1, 2] ∧
      site.pool.Victim kept.env.now 0 := by
  have hfacts : ∃ site ∈ kept.sites[0]?, site.pool.active = [0, 1, 2] ∧
      site.pool.stateOf 0 ≠ .reclaimed := by decide +kernel
  obtain ⟨site, hn, hactive, hold⟩ := hfacts
  have hnew : ∃ site ∈ (kept.start 0 none none).sites[0]?, site.pool.stateOf 0 = .reclaimed := by
    decide +kernel
  obtain ⟨site', hn', hreclaimed⟩ := hnew
  have hs : Section kept (kept.start 0 none none) :=
    .start 0 .ordinary (by decide +kernel) rfl
  have hresort := (reclaim_is_last_resort (Reachable.runAll .refl _ : Reachable kept) 0).2 _ hs
  have hbefore : ¬IsReclaimed 0 0 kept := by
    rintro ⟨p, hp, hstate⟩
    obtain rfl : site.pool = p := Option.some.inj ((pools_getElem? hn).symm.trans hp)
    exact hold hstate
  obtain ⟨t, p, -, hp, hvictim⟩ :=
    hresort.victim 0 hbefore ⟨site'.pool, pools_getElem? hn', hreclaimed⟩
  obtain rfl : site.pool = p := Option.some.inj ((pools_getElem? hn).symm.trans hp)
  exact ⟨site, hn, hactive, hvictim⟩

end World

end ConnPool
