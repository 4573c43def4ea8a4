import ConnPool.Proofs.Pool.Ordered

/-!
# Covered waits

Whatever gives something back to a pool wakes the acquires that wait for it. A take-over wakes no
one, and when the acquire that takes over fails, a slot stays free. Those who wait then depend on
their own timers, so the end of a wait has to come soon after the oldest checkout is overdue, and
that checkout may be another one than when the wait began.

`Covered` relates the end of a wait to all checkouts of the pool, and to the present once there is a
slot that nobody was told of. A wait is covered when it begins (`Covered.sleep`), and every turn of
another acquire preserves this (`Covered.seek`), because the checkouts are in order: the one that is
taken over is the oldest, and a later one ends later.
-/

namespace ConnPool

open Pool

theorem Settings.maxActive_pos {s : Settings} (h : s.problem? = none) : 0 < s.maxActive := by
  refine Nat.pos_of_ne_zero fun hzero => ?_
  rw [problem?, if_pos hzero] at h
  exact nomatch h

/-! ## The length of a wait -/

/-- No acquire waits for longer before it looks at the pool again. -/
def Settings.longestWait (s : Settings) : Span :=
  min (max s.waitTimeout Span.milli) (s.checkoutTimeout + Span.milli)

theorem Settings.waitSpan_le {s : Settings} {waited held wait : Span}
    (h : s.waitSpan waited (some held) = some wait) :
    wait ≤ max s.waitTimeout Span.milli ∧ wait ≤ s.checkoutTimeout - held + Span.milli := by
  unfold waitSpan at h
  extract_lets budget at h
  have hbudget : budget ≤ max s.waitTimeout Span.milli := by
    by_cases hi : s.indefiniteWait = true
    · simp only [budget, if_pos hi, Nat.le_refl]
    · simp only [budget, if_neg hi]
      exact Nat.le_trans (Nat.sub_le ..) (Nat.le_max_left ..)
  split at h
  · exact nomatch h
  · cases h
    refine ⟨Nat.le_trans (Nat.min_le_left ..) hbudget, ?_⟩
    exact Nat.le_trans (Nat.min_le_right ..) (Nat.min_le_left ..)

/-! ## The end of a wait -/

/-- A wait that ends at an instant ends a millisecond after each checkout is overdue, or earlier. -/
def Pool.InTime (p : Pool) (wakes : Instant) : Prop :=
  ∀ r ∈ p.active, ∀ t, p.startOf r = some t →
    wakes ≤ t + p.settings.checkoutTimeout + Span.milli

/-- A wait that ends at an instant is covered, while another acquire may have a candidate in
hand. -/
structure Covered (e : Env) (p : Pool) (hand : Option (Acquire × Ref)) (wakes : Instant) :
    Prop where
  isOpen : p.closed = false
  idle : p.idle = []
  soon : wakes ≤ e.now + p.settings.longestWait
  inTime : p.InTime wakes
  /-- A slot that nobody was told of is used, or else the wait is about to end. -/
  slot : hand.isSome ∨ p.active.length < p.settings.maxActive → wakes < e.now + Span.milli

/-- A wait that begins before the oldest checkout is overdue ends soon after it is. -/
theorem wait_end_le {now start timeout wait slack : Nat} (hs : start ≤ now)
    (hf : now - start ≤ timeout) (hw : wait ≤ timeout - (now - start) + slack) :
    now + wait ≤ start + timeout + slack := by
  omega

namespace Covered

variable {e e' : Env} {p p' : Pool} {hand : Option (Acquire × Ref)} {wakes : Instant}

theorem later (h : Covered e p hand wakes) (he : e.now ≤ e'.now) : Covered e' p hand wakes :=
  { h with
    soon := Nat.le_trans h.soon (Nat.add_le_add_right he _)
    slot := fun hs => Nat.lt_of_lt_of_le (h.slot hs) (Nat.add_le_add_right he _) }

/-- A wait that begins in a saturated pool is covered. -/
theorem sleep {waited wait : Span} (hfit : p.settings.problem? = none) (ho : Ordered e p)
    (h : p.Saturated e.now)
    (hw : p.settings.waitSpan waited (p.oldestHeld e.now) = some wait) :
    Covered e p none (e.now + wait) := by
  obtain ⟨r, rest, ha⟩ := List.exists_cons_of_length_pos
    (Nat.lt_of_lt_of_le (Settings.maxActive_pos hfit) h.full)
  obtain ⟨start, hstart, hbegan⟩ := ho.started r (ha ▸ List.mem_cons_self ..)
  have holdest : p.oldestHeld e.now = some (e.now - start) := by
    rw [oldestHeld, ha, List.head?_cons, Option.map_some, checkoutTime_eq hstart]
  rw [holdest] at hw
  obtain ⟨hlong, hwait⟩ := Settings.waitSpan_le hw
  have hfirst : e.now + wait ≤ start + p.settings.checkoutTimeout + Span.milli :=
    wait_end_le hbegan (h.fresh _ holdest) hwait
  refine ⟨h.isOpen, h.idle, ?_, ?_, ?_⟩
  · refine Nat.add_le_add_left (Nat.le_min.2 ⟨hlong, ?_⟩) _
    exact Nat.le_trans hwait (Nat.add_le_add_right (Nat.sub_le ..) _)
  · intro s hs t ht
    have hle : start ≤ t := ho.first_le ha hs hstart ht
    exact Nat.le_trans hfirst (Nat.add_le_add_right (Nat.add_le_add_right hle _) _)
  · intro hs
    exact absurd (hs.resolve_left Bool.false_ne_true) (Nat.not_lt_of_le h.full)

theorem lasts (h : Covered e p hand wakes) (hl : p.Lasts p') (hset : p'.settings = p.settings) :
    p'.InTime wakes := by
  intro r hr t ht
  rw [hl.startOf hr] at ht
  rw [hset]
  exact h.inTime r (hl.sub.subset hr) t ht

/-- The wait is about to end when a candidate is in hand, and so before a checkout that begins now
is overdue. -/
theorem handedOut {a : Acquire} {r : Ref} (h : Covered e p (some (a, r)) wakes)
    (hr : r < p.handles.length) : (p.handedOut a r e.now).InTime wakes := by
  intro s hs t ht
  change wakes ≤ t + p.settings.checkoutTimeout + Span.milli
  by_cases hsr : s = r
  · rw [hsr, startOf_handedOut_self hr] at ht
    cases ht
    have hsoon : wakes < e.now + Span.milli := h.slot (.inl rfl)
    exact Nat.le_trans (Nat.le_of_lt hsoon) (Nat.add_le_add_right (Nat.le_add_right ..) _)
  · rw [startOf_handedOut_ne p hsr] at ht
    rcases List.mem_append.1 hs with hs | hs
    · exact h.inTime s hs t ht
    · exact absurd (List.mem_singleton.1 hs) hsr

theorem seek {n : Nat} {raised : Bool} {g g' : Stage} (st : Seek n raised g g')
    (ho : Owned g.env g.pool (g.pool.live g.phase.hand)) (hs : Ordered g.env g.pool)
    (h : Covered g.env g.pool g.phase.hand wakes) :
    Covered g'.env g'.pool g'.phase.hand wakes := by
  have hlater := h.later st.grows.now
  have hin : g'.pool.InTime wakes := by
    rcases st.lasts ho with hl | ⟨a, r, hphase, hpool⟩
    · exact h.lasts hl st.settings
    · rw [hphase] at ho hlater
      rw [hpool]
      exact hlater.handedOut (ho.lt (List.mem_cons_self ..))
  cases st with
  | rouse | stop | interrupted | timeOut | sleep | refused =>
    exact ⟨h.isOpen, h.idle, hlater.soon, hin, hlater.slot⟩
  | shut hc => exact absurd (hc.symm.trans h.isOpen) nofun
  | takeIdle _ hi => exact absurd (hi.symm.trans h.idle) nofun
  | openNew hroom =>
    exact ⟨h.isOpen, h.idle, hlater.soon, hin, fun _ => hlater.slot (.inr hroom.room)⟩
  | handOut | reject | giveUp =>
    exact ⟨h.isOpen, h.idle, hlater.soon, hin, fun _ => hlater.slot (.inl rfl)⟩
  | @takeOver e p a r rest held e' _ hi hf ha hh ht he =>
    -- The checkout is overdue by now, and the wait ends at most a millisecond after that.
    have hr : r ∈ p.active := ha ▸ List.mem_cons_self ..
    obtain ⟨start, hstart, -⟩ := hs.started r hr
    rw [hh, checkoutTime_eq hstart] at ht
    have hsoon : wakes < e.now + Span.milli :=
      Nat.lt_of_le_of_lt (h.inTime r hr start hstart)
        (Nat.add_lt_add_right (Nat.add_lt_of_lt_sub' ht) _)
    have hnow : wakes < e'.now + Span.milli :=
      Nat.lt_of_lt_of_le hsoon (Nat.add_le_add_right he.now _)
    exact ⟨h.isOpen, h.idle, hlater.soon, hin, fun _ => hnow⟩

end Covered

end ConnPool
