import ConnPool.Proofs.Pool.Owned

/-!
# The order of the checkouts

The checkouts of a pool stand in the order in which they began (`Ordered`), so that the first one is
the one that may be taken over first. A checkout is added at the end, with the present time for its
beginning, and no step changes the beginning of one that lasts.
-/

namespace ConnPool

open Pool

/-! ## Checkouts that last -/

/-- The checkouts of `p'` lasted since `p`, in the same order and under the same handles. -/
structure Pool.Lasts (p p' : Pool) : Prop where
  sub : p'.active.Sublist p.active
  same : ∀ r ∈ p'.active, p'.handle r = p.handle r

/-- A step of a turn begins a checkout only if it hands a candidate out. -/
theorem Seek.lasts {n : Nat} {raised : Bool} {g g' : Stage} (st : Seek n raised g g')
    (h : Owned g.env g.pool (g.pool.live g.phase.hand)) :
    g.pool.Lasts g'.pool ∨
      ∃ a r, g.phase = .judging a r ∧ g'.pool = g.pool.handedOut a r g'.env.now := by
  have hlt : ∀ s ∈ g.pool.active, s < g.pool.handles.length := fun s hs =>
    h.lt (mem_live_of_active hs)
  cases st with
  | rouse | stop | shut | takeIdle | refused | interrupted | timeOut | sleep =>
    exact .inl ⟨.refl _, fun _ _ => rfl⟩
  | openNew hroom he =>
    exact .inl ⟨.refl _, fun s hs => handle_add_ne _ _ (Nat.ne_of_lt (hlt s hs))⟩
  | @takeOver e p a r rest held e' ho hi hf ha hh ht he =>
    have hnodup : (r :: (rest ++ p.idle)).Nodup := by
      have hnodup : (p.active ++ p.idle).Nodup := h.nodup
      rwa [ha] at hnodup
    refine .inl ⟨ha ▸ List.sublist_cons_self .., fun s hs => ?_⟩
    change s ∈ rest at hs
    refine handle_passOn_ne _ _ _ (fun heq => ?_) (Nat.ne_of_lt (hlt s ?_))
    · exact (List.nodup_cons.1 hnodup).1 (heq ▸ List.mem_append_left _ hs)
    · exact ha ▸ List.mem_cons_of_mem _ hs
  | @handOut e p a r => exact .inr ⟨a, r, rfl, rfl⟩
  | @reject e p a r | @giveUp e p a r =>
    have hr : r ∉ p.active := fun hr => h.hand_notMem (List.mem_append_left _ hr)
    exact .inl ⟨.refl _, fun s hs => handle_withHandle_ne p _ fun heq => hr (heq ▸ hs)⟩

/-- An operation begins no checkout. -/
theorem Yield.lasts {n : Nat} {who : Handback} {e e' : Env} {p p' : Pool}
    (y : Yield n who e p e' p') (h : Owned e p (p.live none)) : p.Lasts p' := by
  have hne : ∀ r, ∀ s ∈ p.active.erase r, s ≠ r := fun r s hs =>
    (h.nodup_active.mem_erase_iff.1 hs).1
  have hempty : ∀ q : Pool, p.Lasts q.emptied := by
    intro q
    constructor <;> simp
  cases y with
  | spurn | letGo => exact ⟨List.erase_sublist .., fun _ _ => rfl⟩
  | discard | close | detach =>
    exact ⟨List.erase_sublist .., fun s hs => handle_withHandle_ne _ _ (hne _ s hs)⟩
  | @store _ _ r =>
    refine ⟨List.erase_sublist .., fun s hs => ?_⟩
    change s ∈ p.active.erase r at hs
    have hlt := h.lt (mem_live_of_active (List.mem_of_mem_erase hs))
    exact handle_passOn_ne _ _ _ (hne r s hs) (Nat.ne_of_lt hlt)
  | drain | change | shutDown => exact hempty _

/-! ## Checkouts in order -/

/-- When the checkout of a handle began. -/
def Pool.startOf (p : Pool) (r : Ref) : Option Instant := (p.handle r).data.checkoutAt

theorem Pool.checkoutTime_eq {p : Pool} {r : Ref} {start : Instant}
    (h : p.startOf r = some start) (t : Instant) :
    (p.handle r).data.checkoutTime t = t - start := by
  rw [startOf] at h
  rw [Metadata.checkoutTime, h]

theorem Pool.startOf_handedOut_self {p : Pool} {r : Ref} (hr : r < p.handles.length)
    (a : Acquire) (t : Instant) : (p.handedOut a r t).startOf r = some t :=
  congrArg (·.data.checkoutAt) (handle_withHandle_self _ hr)

theorem Pool.startOf_handedOut_ne (p : Pool) {r s : Ref} (hne : s ≠ r) (a : Acquire)
    (t : Instant) : (p.handedOut a r t).startOf s = p.startOf s :=
  congrArg (·.data.checkoutAt) (handle_withHandle_ne p _ hne)

theorem Pool.Lasts.startOf {p p' : Pool} {r : Ref} (h : p.Lasts p') (hr : r ∈ p'.active) :
    p'.startOf r = p.startOf r :=
  congrArg (·.data.checkoutAt) (h.same r hr)

/-- The checkouts of a pool began in the order in which they are listed. -/
structure Ordered (e : Env) (p : Pool) : Prop where
  started : ∀ r ∈ p.active, ∃ t, p.startOf r = some t ∧ t ≤ e.now
  sorted : p.active.Pairwise fun r s =>
    ∀ t u, p.startOf r = some t → p.startOf s = some u → t ≤ u

namespace Ordered

variable {e e' : Env} {p p' : Pool}

theorem of_empty (e : Env) (ha : p.active = []) : Ordered e p := by
  constructor <;> simp [ha]

theorem lasts (h : Ordered e p) (he : e.now ≤ e'.now) (hl : p.Lasts p') : Ordered e' p' := by
  constructor
  case started =>
    intro r hr
    obtain ⟨t, ht, hle⟩ := h.started r (hl.sub.subset hr)
    exact ⟨t, (hl.startOf hr).trans ht, Nat.le_trans hle he⟩
  case sorted =>
    refine (h.sorted.sublist hl.sub).imp_of_mem ?_
    intro r s hr hs hle
    rw [hl.startOf hr, hl.startOf hs]
    exact hle

/-- A checkout that begins now goes to the end. -/
theorem handedOut {a : Acquire} {r : Ref} (h : Ordered e p) (hr : r < p.handles.length)
    (hnew : r ∉ p.active) : Ordered e (p.handedOut a r e.now) := by
  have hold : ∀ s ∈ p.active, (p.handedOut a r e.now).startOf s = p.startOf s := by
    intro s hs
    have hne : s ≠ r := fun heq => hnew (heq ▸ hs)
    exact startOf_handedOut_ne p hne a e.now
  have hself := startOf_handedOut_self hr a e.now
  constructor
  case started =>
    intro s hs
    rcases List.mem_append.1 hs with hs | hs
    · rw [hold s hs]
      exact h.started s hs
    · rw [List.mem_singleton.1 hs, hself]
      exact ⟨e.now, rfl, Nat.le_refl _⟩
  case sorted =>
    refine List.pairwise_append.2 ⟨?_, List.pairwise_singleton .., ?_⟩
    · refine h.sorted.imp_of_mem ?_
      intro s s' hs hs' hle
      rw [hold s hs, hold s' hs']
      exact hle
    · intro s hs s' hs' t u ht hu
      rw [List.mem_singleton.1 hs', hself] at hu
      rw [hold s hs] at ht
      obtain ⟨t', ht', hle⟩ := h.started s hs
      cases ht.symm.trans ht'
      cases hu
      exact hle

/-- No checkout began before the first one in the list. -/
theorem first_le (h : Ordered e p) {r s : Ref} {rest : List Ref} {t u : Instant}
    (ha : p.active = r :: rest) (hs : s ∈ p.active) (ht : p.startOf r = some t)
    (hu : p.startOf s = some u) : t ≤ u := by
  have hsorted := h.sorted
  rw [ha] at hs hsorted
  rcases List.mem_cons.1 hs with rfl | hs
  · exact Nat.le_of_eq (Option.some.inj (ht.symm.trans hu))
  · exact (List.pairwise_cons.1 hsorted).1 s hs t u ht hu

theorem seek {n : Nat} {raised : Bool} {g g' : Stage} (st : Seek n raised g g')
    (ho : Owned g.env g.pool (g.pool.live g.phase.hand)) (h : Ordered g.env g.pool) :
    Ordered g'.env g'.pool := by
  have hnow := st.grows.now
  rcases st.lasts ho with hl | ⟨a, r, hphase, hpool⟩
  · exact h.lasts hnow hl
  · rw [hphase] at ho
    have hr : r < g.pool.handles.length := ho.lt (List.mem_cons_self ..)
    have hnew : r ∉ g.pool.active := fun hr => ho.hand_notMem (List.mem_append_left _ hr)
    rw [hpool]
    exact (h.lasts hnow ⟨.refl _, fun _ _ => rfl⟩).handedOut hr hnew

theorem yield {n : Nat} {who : Handback} (y : Yield n who e p e' p')
    (ho : Owned e p (p.live none)) (h : Ordered e p) : Ordered e' p' :=
  h.lasts y.grows.now (y.lasts ho)

end Ordered

end ConnPool
