import ConnPool.Proofs.Pool.Bounded
import ConnPool.Proofs.Pool.Ordered

/-!
# The budget of a wait

An acquire that has to wait for a limited time notes when that began, and at each later turn it
subtracts what has passed since then. The note survives a turn, whatever candidates the acquire
meets in it (`Seek.since`), so the length of every wait is reckoned from one instant.

**Theorem (`Seeks.reckoned`).** A turn ends with a wait, or for lack of time, only in a saturated
pool, and there is time left in the first case and none in the second.
-/

namespace ConnPool

open Pool

/-! ## The length of a wait -/

namespace Settings

variable {s : Settings} {waited wait : Span} {oldest : Option Span}

/-- The time is used up only where it is limited. -/
theorem of_waitSpan_none (h : s.waitSpan waited oldest = none) :
    s.indefiniteWait = false ∧ s.waitTimeout ≤ waited := by
  unfold waitSpan at h
  extract_lets budget at h
  split at h
  · next hzero =>
    cases hi : s.indefiniteWait with
    | true =>
      simp only [budget, hi, if_true] at hzero
      have hpos : 0 < max s.waitTimeout Span.milli :=
        Nat.lt_of_lt_of_le (by decide) (Nat.le_max_right ..)
      exact absurd hzero (Nat.ne_of_gt hpos)
    | false =>
      simp only [budget, hi, Bool.false_eq_true, if_false] at hzero
      exact ⟨rfl, Nat.le_of_sub_eq_zero hzero⟩
  · cases oldest <;> exact nomatch h

theorem milli_le_satAdd (d : Span) : Span.milli ≤ Span.satAdd d Span.milli :=
  Nat.le_min.2 ⟨Nat.le_add_left .., by decide⟩

/-- A wait that takes no more than is left of a time ends within that time. -/
theorem end_le_of_left {now start wait limit : Nat} (h : start ≤ now)
    (hw : now - start + wait ≤ limit) : now + wait ≤ start + limit := by
  omega

/-- A limited wait takes some time, and no more than is left. -/
theorem waitSpan_limited (h : s.waitSpan waited oldest = some wait)
    (hi : s.indefiniteWait = false) : 0 < wait ∧ waited + wait ≤ s.waitTimeout := by
  unfold waitSpan at h
  extract_lets budget at h
  have hbudget : budget = s.waitTimeout - waited := by simp [budget, hi]
  split at h
  · exact nomatch h
  · next hne =>
    have hpos : 0 < budget := Nat.pos_of_ne_zero hne
    have hwait : 0 < wait ∧ wait ≤ budget := by
      cases oldest with
      | none =>
        rw [← Option.some.inj h]
        exact ⟨hpos, Nat.le_refl _⟩
      | some held =>
        rw [← Option.some.inj h]
        refine ⟨Nat.lt_min.2 ⟨hpos, ?_⟩, Nat.min_le_left ..⟩
        exact Nat.lt_of_lt_of_le (by decide) (milli_le_satAdd _)
    rw [hbudget] at hpos hwait
    exact ⟨hwait.1, Nat.add_le_of_le_sub' (Nat.le_of_lt (Nat.lt_of_sub_pos hpos)) hwait.2⟩

/-- Any other wait takes a millisecond or more. -/
theorem waitSpan_indefinite (h : s.waitSpan waited oldest = some wait)
    (hi : s.indefiniteWait = true) : Span.milli ≤ wait := by
  unfold waitSpan at h
  extract_lets budget at h
  have hbudget : Span.milli ≤ budget := by
    simp only [budget, hi, if_true]
    exact Nat.le_max_right ..
  split at h
  · exact nomatch h
  · cases oldest with
    | none =>
      rw [← Option.some.inj h]
      exact hbudget
    | some held =>
      rw [← Option.some.inj h]
      exact Nat.le_min.2 ⟨hbudget, milli_le_satAdd _⟩

end Settings

/-! ## Pools that have nothing to serve an acquire -/

/-- All connections that the pool may hold are checked out, and none for too long. -/
structure Pool.Busy (p : Pool) (t : Instant) : Prop where
  idle : p.idle = []
  full : p.active.length = p.settings.maxActive
  fresh : ∀ r ∈ p.active, (p.handle r).data.checkoutTime t ≤ p.settings.checkoutTimeout

theorem Pool.Saturated.busy {e : Env} {p : Pool} (h : p.Saturated e.now) (hb : Bounded p none)
    (ho : Ordered e p) : p.Busy e.now where
  idle := h.idle
  full := by
    have htotal := hb.total
    rw [h.idle] at htotal
    change 0 + p.active.length ≤ _ at htotal
    have hfull := h.full
    omega
  fresh := by
    intro s hs
    obtain ⟨r, rest, ha⟩ := List.exists_cons_of_ne_nil (List.ne_nil_of_mem hs)
    obtain ⟨start, hstart, -⟩ := ho.started r (ha ▸ List.mem_cons_self ..)
    obtain ⟨t, ht, -⟩ := ho.started s hs
    have holdest : p.oldestHeld e.now = some (e.now - start) := by
      rw [oldestHeld, ha, List.head?_cons, Option.map_some, checkoutTime_eq hstart]
    rw [checkoutTime_eq ht]
    exact Nat.le_trans (Nat.sub_le_sub_left (ho.first_le ha hs hstart ht) _) (h.fresh _ holdest)

/-! ## From turn to turn -/

/-- The acquire whose turn it is first had to wait for a limited time at `b`. -/
def Phase.Since (b : Option Instant) : Phase → Prop
  | .woken _ a | .seeking a | .judging a _ => a.waitBegan = b
  | .ended _ => True

theorem Seek.since {n : Nat} {raised : Bool} {g g' : Stage} {b : Option Instant}
    (st : Seek n raised g g') (h : g.phase.Since b) : g'.phase.Since b := by
  cases st with
  | rouse | takeIdle | openNew | takeOver | reject => exact h
  | stop | shut | refused | handOut | giveUp | interrupted | timeOut | sleep => trivial

theorem Seeks.since {n : Nat} {raised : Bool} {g g' : Stage} {b : Option Instant}
    (hs : Seeks n raised g g') (h : g.phase.Since b) : g'.phase.Since b := by
  induction hs with
  | refl => exact h
  | tail _ st ih => exact st.since ih

/-- How a turn of an acquire ends whose time is reckoned from `t₀`: with a wait or for lack of time
only in a saturated pool, and with a wait only if there is time left. -/
structure Pool.Reckoned (p : Pool) (now t₀ : Instant) (turn : Turn) : Prop where
  asleep : ∀ a wait, turn = .sleep a wait → p.Saturated now ∧
    (p.settings.indefiniteWait = false →
      0 < wait ∧ now + wait ≤ t₀ + p.settings.waitTimeout ∧ a.waitBegan = some t₀) ∧
    (p.settings.indefiniteWait = true → Span.milli ≤ wait)
  timedOut : ∀ a x, turn = .done a (.error (.timeout x)) → p.Saturated now ∧
    p.settings.indefiniteWait = false ∧ x = p.settings.waitTimeout ∧
    t₀ + p.settings.waitTimeout ≤ now

/-- Every turn ends like this if it starts with the note of `t₀`, or ends at `t₀` without a note. -/
theorem Seeks.reckoned {n : Nat} {raised : Bool} {g : Stage} {e : Env} {p : Pool} {turn : Turn}
    {b : Option Instant} {t₀ : Instant} (hs : Seeks n raised g ⟨e, p, .ended turn⟩)
    (hstart : g.phase.Starts) (hb : g.phase.Since b) (hzero : t₀ ≤ e.now)
    (hsince : p.settings.indefiniteWait = false → b.getD e.now = t₀) :
    p.Reckoned e.now t₀ turn := by
  -- The note that the turn began with is still there at its last step.
  obtain ⟨g₁, hs₁, st⟩ := hs.last hstart
  have hbegan := Seeks.since hs₁ hb
  refine ⟨fun a wait hturn => ?_, fun a x hturn => ?_⟩ <;> subst hturn
  · cases st with
    | @sleep e p a d h _ hw =>
      cases hbegan
      refine ⟨⟨h.isOpen, h.idle, h.full, h.fresh⟩, fun hlimited => ?_,
        Settings.waitSpan_indefinite hw⟩
      have hfirst : a.waitBegan.getD e.now = t₀ := hsince hlimited
      obtain ⟨hpos, hle⟩ := Settings.waitSpan_limited hw hlimited
      rw [hfirst] at hle ⊢
      exact ⟨hpos, Settings.end_le_of_left hzero hle, if_neg (Bool.eq_false_iff.1 hlimited)⟩
  · cases st with
    | @timeOut e p a h _ hw =>
      cases hbegan
      obtain ⟨hlimited, hup⟩ := Settings.of_waitSpan_none hw
      have hfirst : a.waitBegan.getD e.now = t₀ := hsince hlimited
      rw [hfirst] at hup
      exact ⟨⟨h.isOpen, h.idle, h.full, h.fresh⟩, hlimited, rfl, Nat.add_le_of_le_sub' hzero hup⟩

end ConnPool
