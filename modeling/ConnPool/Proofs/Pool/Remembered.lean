import ConnPool.Proofs.Pool.Wrapped

/-!
# What handles remember of their connections

When a connection passes on to a new handle, the old handle lives on with all that it knew. So it is
not enough that the table keeps a record; what counts is that the handles which own connections have
the latest one. They come from one another in few ways.

* `Fosters`: what an acquire may have in hand. It is an idle connection, or the connection of a
  checkout that lasted too long under a new handle, or a new connection.
* `Yield.rests`: what an operation puts into the idle list is a connection that was checked out,
  under a new handle.

**Theorem (`Seeks.handsOut`).** The handle that a turn ends with is one that the acquire had in
hand, with one more hand-out on record.
-/

namespace ConnPool

open Pool

/-- The handle that an acquire may have in hand by some time in a turn, which it started with pool
`p`. -/
inductive Pool.Fosters (p : Pool) (now : Instant) : Handle → Prop
  | idle {r : Ref} (hr : r ∈ p.idle) : Fosters p now (p.handle r)
  /-- The next handle of a connection that was checked out. -/
  | renewed {r : Ref} (hr : r ∈ p.active) (id : Nat) :
      Fosters p now ⟨(p.handle r).raw, true, (p.handle r).data.renew id⟩
  /-- The first handle of a connection that was not there before. -/
  | first (id : Nat) (raw : Raw) (endpoint : Endpoint) (t : Instant)
      (hnew : p.attempts < raw.conn) (ht : t ≤ now) :
      Fosters p now ⟨raw, true, .first id raw.id endpoint t⟩

theorem Pool.Fosters.later {p : Pool} {now now' : Instant} {x : Handle} (h : p.Fosters now x)
    (hle : now ≤ now') : p.Fosters now' x := by
  cases h with
  | idle hr => exact .idle hr
  | renewed hr id => exact .renewed hr id
  | first id raw endpoint t hnew ht => exact .first id raw endpoint t hnew (Nat.le_trans ht hle)

section

variable {n : Nat} {raised : Bool} {g g₁ g₂ : Stage} {a : Acquire} {r : Ref}

/-- What an acquire takes in hand is idle, or is renewed, or is new. -/
theorem Seek.fosters (st : Seek n raised g₁ g₂) (hs : Seeks n raised g g₁)
    (ho : Owned g.env g.pool (g.pool.live g.phase.hand)) (hphase : g₂.phase = .judging a r) :
    g.pool.Fosters g₂.env.now (g₂.pool.handle r) := by
  have hsame : ∀ s ∈ g₁.pool.live none, g₁.pool.handle s = g.pool.handle s := by
    intro s hin
    refine (hs.handle_same ho hin ?_).2
    rw [st.handed_eq_nil]
    exact List.not_mem_nil
  cases st with
  | rouse | stop | shut | refused | handOut | reject | giveUp | interrupted | timeOut | sleep =>
    cases hphase
  | @takeIdle e p b s rest _ hi =>
    cases hphase
    have hr : r ∈ p.idle := hi ▸ List.mem_cons_self ..
    show g.pool.Fosters e.now (p.handle r)
    rw [show p.handle r = g.pool.handle r from hsame r (mem_live_of_idle hr)]
    exact .idle (hs.idle.subset hr)
  | @openNew e p b e' =>
    cases hphase
    show g.pool.Fosters e'.now ((p.opened e' a.login).handle p.handles.length)
    rw [handle_opened_self]
    exact .first e'.nextHandle _ _ e'.now (Nat.lt_succ_of_le (Seeks.attempts_le hs)) (Nat.le_refl _)
  | @takeOver e p b s rest held e' _ _ _ ha =>
    cases hphase
    have hs' : s ∈ p.active := ha ▸ List.mem_cons_self ..
    have hactive : s ∈ g.pool.active :=
      (Seeks.mem_active hs hs').resolve_right List.not_mem_nil
    have hnew : (p.takenOver s rest held e'.nextHandle).handle p.handles.length =
        ⟨(p.handle s).raw, true, (p.handle s).data.renew e'.nextHandle⟩ := handle_passOn_new ..
    show g.pool.Fosters e'.now ((p.takenOver s rest held e'.nextHandle).handle p.handles.length)
    rw [hnew, show p.handle s = g.pool.handle s from hsame s (mem_live_of_active hs')]
    exact .renewed hactive e'.nextHandle

/-- A turn that ends with a handle had it in hand, and adds the hand-out to what it remembers. -/
theorem Seeks.handsOut {e : Env} {p : Pool} (hs : Seeks n raised g ⟨e, p, .ended (.done a (.ok r))⟩)
    (hstart : g.phase.Starts) (ho : Owned g.env g.pool (g.pool.live g.phase.hand)) :
    ∃ x endpoint, g.pool.Fosters e.now x ∧
      p.handle r = { x with data := x.data.checkOut endpoint e.now } := by
  obtain ⟨g₂, hs₂, st⟩ := hs.last hstart
  cases st with
  | @handOut e₁ q _ _ _ hv he =>
    rcases Relation.ReflTransGen.cases_tail hs₂ with heq | ⟨g₁, hs₁, st₁⟩
    · rw [← heq] at hstart
      exact hstart.elim
    · have hx : g.pool.Fosters e₁.now (q.handle r) := st₁.fosters hs₁ ho rfl
      exact ⟨_, _, hx.later he.now, handle_withHandle_self _ (lt_of_valid hv)⟩

end

/-- What is idle after an operation was idle before it, or is the connection that was returned,
under a new handle. -/
theorem Yield.rests {n : Nat} {who : Handback} {e e' : Env} {p p' : Pool} {r : Ref}
    (y : Yield n who e p e' p') (ho : Owned e p (p.live none))
    (hidle : ∀ s, who = .release s → s ∉ p.idle) (hr : r ∈ p'.idle) :
    r ∈ p.idle ∧ p'.handle r = p.handle r ∨
      ∃ s ∈ p.active, ∃ id,
        p'.handle r = ⟨(p.handle s).raw, true, ((p.handle s).data.renew id).rest⟩ := by
  have hne : ∀ {s}, s ∉ p.idle → r ∈ p.idle → r ≠ s := by
    intro s hs hr heq
    exact hs (heq ▸ hr)
  cases y with
  | spurn | letGo => exact .inl ⟨hr, rfl⟩
  | @discard _ _ s | @close _ _ s =>
    exact .inl ⟨hr, handle_withHandle_ne _ _ (hne (hidle s rfl) hr)⟩
  | detach ha => exact .inl ⟨hr, handle_withHandle_ne _ _ (hne (ho.notMem_idle ha) hr)⟩
  | @store _ _ s t e' hv =>
    rcases List.mem_append.1 hr with hr | hr
    · refine .inl ⟨hr, handle_passOn_ne (p.timed s t) _ _ (hne (hidle s rfl) hr) ?_⟩
      exact Nat.ne_of_lt (ho.lt (mem_live_of_idle hr))
    · rw [List.mem_singleton.1 hr]
      have hs : s ∈ p.active := ho.mem_active hv (hidle s rfl)
      exact .inr ⟨s, hs, e'.nextHandle, handle_passOn_new (p.timed s t) s _ _⟩
  | drain | change | shutDown =>
    rw [idle_emptied] at hr
    exact absurd hr List.not_mem_nil

end ConnPool
