import ConnPool.Proofs.Pool.Ordered
import Mathlib.Algebra.BigOperators.Group.Finset.Basic

/-!
# What a pool counts

A pool counts in the middle of its turns and operations, some of it in a loop that an acquire may go
around many times, and on the way to errors too. Yet each step of a turn keeps a balance between the
counts and what stands beside them.

* `Balanced`: a request is one more checkout that was not taken over, and an acquire is counted
  among those that wait when it comes to know that it was.
* `Seek.waited`: it comes to know that when it finds nothing in a saturated pool, and only then.
* `Seek.castsOff`: a bad connection is one more retired handle that no caller ever had.
* `Yield.tally`: what callers give back is no request, no wait and no take-over.
* `release_bad`: the return of a handle that is not sound is one more bad connection.

**Theorems (`Seeks.balanced`, `Seeks.waited`, `Seeks.castsOff`).** So does a whole turn.
-/

namespace ConnPool

open Pool

/-! ## What stands beside the counts -/

/-- The handle with which an acquire ends in its turn. -/
def Turn.handed : Turn → List Ref
  | .done _ (.ok r) => [r]
  | _ => []

/-- The turn ends for want of a candidate: the acquire waits, or is told that it waited in vain. -/
def Turn.isUnserved : Turn → Bool
  | .sleep .. | .done _ (.error .interrupted) | .done _ (.error (.timeout _)) => true
  | _ => false

/-- An acquire that comes to a wait is left with nothing, and the handles stay as they are. -/
theorem Pool.wait_unserved {S : Type} (raised : Bool) (a : Acquire) (s : Scene S) :
    Ends (wait raised a) s fun turn s' =>
      turn.isUnserved = true ∧ s'.pool.handles = s.pool.handles := by
  unfold wait
  extract_lets a' rest
  have hrest : ∀ s₁ : Scene S, s₁.pool.handles = s.pool.handles →
      Ends (rest ()) s₁ fun turn s' =>
        turn.isUnserved = true ∧ s'.pool.handles = s.pool.handles := by
    intro s₁ hsame
    by_cases hr : raised = true
    · simp only [rest, if_pos hr]
      exact .bind <| .note <| .pure ⟨rfl, hsame⟩
    · simp only [rest, if_neg hr]
      refine .bind <| .look <| .bind <| .now <| .bind <| ends_oldestCheckout ?_
      split <;> exact .bind <| .note <| .pure ⟨rfl, hsame⟩
  cases a.waitCounted with
  | true => exact hrest s rfl
  | false => exact .bind <| .count <| hrest _ rfl

namespace Phase

/-- The handle that the turn has handed out by now. -/
def handed : Phase → List Ref
  | .ended turn => turn.handed
  | _ => []

/-- What the acquire knows by now. -/
def acquire : Phase → Acquire
  | .woken _ a | .seeking a | .judging a _ | .ended (.done a _) | .ended (.sleep a _) => a

/-- An acquire that was woken had to wait. -/
def Awaited : Phase → Prop
  | .woken _ a => a.waitCounted = true
  | _ => True

end Phase

/-- The turn is over, and it found no candidate in a pool that has none to offer. -/
def Stage.FoundNothing (g : Stage) : Prop :=
  ∃ turn, g.phase = .ended turn ∧ turn.isUnserved = true ∧ g.pool.Saturated g.env.now

/-- The handle is retired for good. -/
def Pool.Retired (p : Pool) (r : Ref) : Prop := r < p.handles.length ∧ (p.handle r).valid = false

instance (p : Pool) (r : Ref) : Decidable (p.Retired r) := inferInstanceAs (Decidable (_ ∧ _))

open scoped Classical in
/-- The retired handles that were never given to a caller. -/
noncomputable def Pool.castOff (p : Pool) (given : Ref → Prop) : Finset Ref :=
  (Finset.range p.handles.length).filter fun r => p.Retired r ∧ ¬given r

namespace Pool

variable {p p' : Pool} {given : Ref → Prop} {r s : Ref}

theorem mem_castOff : r ∈ p.castOff given ↔ p.Retired r ∧ ¬given r := by
  simp only [castOff, Finset.mem_filter, Finset.mem_range, and_iff_right_iff_imp]
  exact fun h => h.1.1

theorem retired_congr (h : p'.handles = p.handles) : p'.Retired r ↔ p.Retired r := by
  rw [Retired, Retired, handle_congr h, h]

theorem retired_retire (hr : r < p.handles.length) (state : HandleState) :
    (p.withHandle r (·.retire state)).Retired s ↔ p.Retired s ∨ s = r := by
  rw [Retired, Retired, length_withHandle]
  by_cases hs : s = r
  · subst hs
    simp [handle_withHandle_self _ hr, hr, Handle.retire]
  · rw [handle_withHandle_ne _ _ hs]
    simp [hs]

theorem retired_add {h : Handle} (hv : h.valid = true) : (p.add h).Retired s ↔ p.Retired s := by
  rw [Retired, Retired, length_add]
  by_cases hs : s = p.handles.length
  · subst hs
    simp [handle_add_self, hv]
  · rw [handle_add_ne p h hs]
    exact and_congr_left fun _ => ⟨fun hlt => Nat.lt_of_le_of_ne (Nat.le_of_lt_succ hlt) hs,
      Nat.lt_succ_of_lt⟩

theorem retired_passOn (hr : r < p.handles.length) (state : HandleState) (data : Metadata) :
    (p.passOn r state data).Retired s ↔ p.Retired s ∨ s = r :=
  (retired_add rfl).trans (retired_retire hr state)

/-- To retire handles that callers had casts none off. -/
theorem castOff_congr (h : ∀ r, ¬given r → (p'.Retired r ↔ p.Retired r)) :
    p'.castOff given = p.castOff given := by
  ext r
  rw [mem_castOff, mem_castOff]
  exact and_congr_left (h r)

end Pool

/-! ## Turns -/

/-- Between two stages of a turn the counts and what stands beside them change together. -/
structure Balanced (g g' : Stage) : Prop where
  requests : g'.pool.tally.requests + g.phase.handed.length =
    g.pool.tally.requests + g'.phase.handed.length
  claimed : g'.pool.tally.claimed + g'.pool.active.length + g.phase.handed.length =
    g.pool.tally.claimed + g.pool.active.length + g'.phase.handed.length
  waits : g'.pool.tally.waits + g.phase.acquire.waitCounted.toNat =
    g.pool.tally.waits + g'.phase.acquire.waitCounted.toNat

theorem Balanced.trans {g g₁ g' : Stage} (h₁ : Balanced g g₁) (h₂ : Balanced g₁ g') :
    Balanced g g' where
  requests := by
    have := h₁.requests
    have := h₂.requests
    omega
  claimed := by
    have := h₁.claimed
    have := h₂.claimed
    omega
  waits := by
    have := h₁.waits
    have := h₂.waits
    omega

section

variable {n : Nat} {raised : Bool} {g g' : Stage}

theorem waits_counted (p : Pool) (a : Acquire) :
    (p.counted a).tally.waits + a.waitCounted.toNat = p.tally.waits + 1 := by
  unfold counted
  cases a.waitCounted <;> rfl

theorem Seek.balanced (st : Seek n raised g g') : Balanced g g' := by
  cases st with
  | rouse | stop | shut | takeIdle | refused | openNew | reject | giveUp => exact ⟨rfl, rfl, rfl⟩
  | @takeOver e p a r rest held e' ho hi hf ha =>
    refine ⟨rfl, ?_, rfl⟩
    change p.tally.claimed + 1 + rest.length + 0 = p.tally.claimed + p.active.length + 0
    rw [ha, List.length_cons]
    omega
  | @handOut e p a r =>
    refine ⟨rfl, ?_, rfl⟩
    change p.tally.claimed + (p.active ++ [r]).length + 0 = p.tally.claimed + p.active.length + 1
    rw [List.length_append]
    rfl
  | @interrupted e p a | @timeOut e p a | @sleep e p a =>
    have hsame : (p.counted a).tally.requests = p.tally.requests ∧
        (p.counted a).tally.claimed = p.tally.claimed := by
      unfold counted
      cases a.waitCounted <;> exact ⟨rfl, rfl⟩
    refine ⟨congrArg (· + 0) hsame.1, ?_, waits_counted p a⟩
    change (p.counted a).tally.claimed + p.active.length + 0 = _
    rw [hsame.2]
    rfl

theorem Seeks.balanced (hs : Seeks n raised g g') : Balanced g g' := by
  induction hs with
  | refl => exact ⟨rfl, rfl, rfl⟩
  | tail _ st ih => exact ih.trans st.balanced

/-- A turn that goes on is not over. -/
theorem Seek.ne_ended (st : Seek n raised g g') (turn : Turn) : g.phase ≠ .ended turn := by
  cases st <;> exact nofun

theorem Seek.handed_eq_nil (st : Seek n raised g g') : g.phase.handed = [] := by
  cases st <;> rfl

/-- Nothing is checked out in a turn but the handle with which it ends. -/
theorem Seek.mem_active (st : Seek n raised g g') {r : Ref} (hr : r ∈ g'.pool.active) :
    r ∈ g.pool.active ∨ r ∈ g'.phase.handed := by
  cases st with
  | rouse | stop | shut | takeIdle | refused | openNew | reject | giveUp | interrupted | timeOut
  | sleep => exact .inl hr
  | takeOver _ _ _ ha =>
    rw [ha]
    exact .inl (List.mem_cons_of_mem _ hr)
  | handOut => exact List.mem_append.1 hr

theorem Seeks.mem_active (hs : Seeks n raised g g') {r : Ref} (hr : r ∈ g'.pool.active) :
    r ∈ g.pool.active ∨ r ∈ g'.phase.handed := by
  induction hs with
  | refl => exact .inl hr
  | tail _ st ih =>
    rcases st.mem_active hr with hr | hr
    · refine .inl ((ih hr).resolve_right fun hhanded => ?_)
      rw [st.handed_eq_nil] at hhanded
      exact nomatch hhanded
    · exact .inr hr

/-! ## Waits -/

theorem Seek.awaited (st : Seek n raised g g') : g'.phase.Awaited := by
  cases st <;> trivial

theorem Stage.FoundNothing.of_ended {e : Env} {p : Pool} {turn : Turn}
    (h : turn.isUnserved = true) (hp : p.Saturated e.now) :
    FoundNothing ⟨e, p, .ended turn⟩ := ⟨turn, rfl, h, hp⟩

/-- An acquire knows that it had to wait if it knew before, or if it found nothing. -/
theorem Seek.waited (st : Seek n raised g g') (h : g.phase.Awaited) :
    g'.phase.acquire.waitCounted = true ↔
      g.phase.acquire.waitCounted = true ∨ g'.FoundNothing := by
  cases st with
  | rouse | takeIdle | openNew | takeOver | reject =>
    exact (or_iff_left fun ⟨_, hp, _⟩ => nomatch hp).symm
  | shut | refused | handOut | giveUp =>
    refine (or_iff_left ?_).symm
    rintro ⟨_, hp, hturn, -⟩
    cases hp
    exact nomatch hturn
  | stop => exact ⟨.inl, fun _ => h⟩
  | interrupted hp | timeOut hp | sleep hp =>
    exact ⟨fun _ => .inr (.of_ended rfl ⟨hp.isOpen, hp.idle, hp.full, hp.fresh⟩), fun _ => rfl⟩

theorem Seeks.waited (hs : Seeks n raised g g') (hstart : g.phase.Starts) (h : g.phase.Awaited) :
    g'.phase.acquire.waitCounted = true ↔
      g.phase.acquire.waitCounted = true ∨ g'.FoundNothing := by
  suffices hboth : g'.phase.Awaited ∧ (g'.phase.acquire.waitCounted = true ↔
      g.phase.acquire.waitCounted = true ∨ g'.FoundNothing) from hboth.2
  induction hs with
  | refl =>
    refine ⟨h, (or_iff_left ?_).symm⟩
    rintro ⟨_, hp, -⟩
    rw [hp] at hstart
    exact hstart
  | tail _ st ih =>
    have hbefore := ih.2.trans (or_iff_left fun ⟨turn, hp, _⟩ => st.ne_ended turn hp)
    exact ⟨st.awaited, (st.waited ih.1).trans (or_congr_left hbefore)⟩

/-! ## Bad connections -/

/-- A connection is found bad where a handle is cast off, and nowhere else. -/
structure CastsOff (given : Ref → Prop) (g g' : Stage) : Prop where
  subset : g.pool.castOff given ⊆ g'.pool.castOff given
  bad : g'.pool.tally.bad + (g.pool.castOff given).card =
    g.pool.tally.bad + (g'.pool.castOff given).card

namespace CastsOff

variable {given : Ref → Prop}

theorem of_same (hbad : g'.pool.tally.bad = g.pool.tally.bad)
    (h : ∀ r, ¬given r → (g'.pool.Retired r ↔ g.pool.Retired r)) : CastsOff given g g' := by
  have heq := castOff_congr h
  refine ⟨?_, ?_⟩ <;> rw [heq]
  rw [hbad]

/-- A candidate that is discarded owned its connection up to then. -/
theorem of_rejected {e e' : Env} {p : Pool} {phase phase' : Phase} {r : Ref}
    (hr : (p.handle r).valid = true) (hgiven : ¬given r) :
    CastsOff given ⟨e, p, phase⟩ ⟨e', p.rejected r, phase'⟩ := by
  have hnew : r ∉ p.castOff given := fun h =>
    Bool.false_ne_true ((mem_castOff.1 h).1.2.symm.trans hr)
  have hinsert : (p.rejected r).castOff given = insert r (p.castOff given) := by
    ext s
    have hretired : (p.rejected r).Retired s ↔ p.Retired s ∨ s = r :=
      retired_retire (lt_of_valid hr) .invalid
    rw [Finset.mem_insert, mem_castOff, mem_castOff, hretired]
    constructor
    · rintro ⟨hs | hs, hns⟩
      · exact .inr ⟨hs, hns⟩
      · exact .inl hs
    · rintro (rfl | ⟨hs, hns⟩)
      · exact ⟨.inr rfl, hgiven⟩
      · exact ⟨.inl hs, hns⟩
  constructor
  · change p.castOff given ⊆ (p.rejected r).castOff given
    rw [hinsert]
    exact Finset.subset_insert ..
  · change p.tally.bad + 1 + (p.castOff given).card =
      p.tally.bad + ((p.rejected r).castOff given).card
    rw [hinsert, Finset.card_insert_of_notMem hnew]
    omega

theorem trans {g₁ : Stage} (h₁ : CastsOff given g g₁) (h₂ : CastsOff given g₁ g') :
    CastsOff given g g' where
  subset := h₁.subset.trans h₂.subset
  bad := by
    have := h₁.bad
    have := h₂.bad
    omega

end CastsOff

/-- The candidates that a turn discards are in its hand, and no caller ever had them. What it takes
over from a caller is retired too, and does not count. -/
theorem Seek.castsOff {given : Ref → Prop} (st : Seek n raised g g')
    (ho : Owned g.env g.pool (g.pool.live g.phase.hand)) (hs : Spares given g)
    (hactive : ∀ r ∈ g.pool.active, given r) : CastsOff given g g' := by
  cases st with
  | rouse | stop | shut | takeIdle | refused => exact .of_same rfl fun r _ => retired_congr rfl
  | @interrupted e p a | @timeOut e p a | @sleep e p a =>
    refine .of_same ?_ fun r _ => retired_congr rfl
    change (p.counted a).tally.bad = p.tally.bad
    unfold counted
    cases a.waitCounted <;> rfl
  | openNew => exact .of_same rfl fun r _ => retired_add rfl
  | @takeOver e p a r rest held e' ho' hi hf ha =>
    have hr : r ∈ p.active := ha ▸ List.mem_cons_self ..
    refine .of_same rfl fun s hs' => ?_
    refine (retired_passOn (ho.lt (mem_live_of_active hr)) _ _).trans (or_iff_left ?_)
    rintro rfl
    exact hs' (hactive _ hr)
  | @handOut e p a r e' =>
    refine .of_same rfl fun s _ => ?_
    have hvalid : ((p.handedOut a r e'.now).handle s).valid = (p.handle s).valid :=
      part_withHandle Handle.valid p r s fun _ => rfl
    have hlen : (p.handedOut a r e'.now).handles.length = p.handles.length :=
      length_withHandle ..
    rw [Retired, Retired, hvalid, hlen]
  | @reject e p a r | @giveUp e p a r =>
    have hv : (p.handle r).valid = true := (ho.valid r).2 (List.mem_cons_self ..)
    exact .of_rejected hv (hs.hand a r rfl)

theorem Seeks.castsOff {given : Ref → Prop} (hs : Seeks n raised g g')
    (ho : Owned g.env g.pool (g.pool.live g.phase.hand)) (hspares : Spares given g)
    (hactive : ∀ r ∈ g.pool.active, given r) : CastsOff given g g' := by
  suffices hall : Owned g'.env g'.pool (g'.pool.live g'.phase.hand) ∧ Spares given g' ∧
      CastsOff given g g' from hall.2.2
  induction hs with
  | refl => exact ⟨ho, hspares, .of_same rfl fun _ _ => Iff.rfl⟩
  | tail hs st ih =>
    obtain ⟨ho₁, hspares₁, hcasts⟩ := ih
    refine ⟨ho₁.seek st, hspares₁.seek st, hcasts.trans (st.castsOff ho₁ hspares₁ fun r hr => ?_)⟩
    have hhanded := Seeks.mem_active hs hr
    rw [st.handed_eq_nil] at hhanded
    exact hactive r (hhanded.resolve_right List.not_mem_nil)

/-! ## Take-overs -/

/-- A handle that is checked out stays as it is. -/
theorem Seek.handle_of_active (st : Seek n raised g g')
    (ho : Owned g.env g.pool (g.pool.live g.phase.hand)) {r : Ref} (hr : r ∈ g.pool.active)
    (hr' : r ∈ g'.pool.active) : g'.pool.handle r = g.pool.handle r := by
  rcases st.lasts ho with hl | ⟨a, s, hphase, hpool⟩
  · exact hl.same r hr'
  · rw [hphase] at ho
    rw [hpool]
    refine handle_withHandle_ne _ _ fun heq => ?_
    exact ho.hand_notMem (List.mem_append_left _ (heq ▸ hr))

theorem checkoutTime_mono (m : Metadata) {t u : Instant} (h : t ≤ u) :
    m.checkoutTime t ≤ m.checkoutTime u := by
  unfold Metadata.checkoutTime
  split
  · exact Nat.sub_le_sub_right h _
  · exact Nat.le_refl _

/-- A checkout that ends in a turn is taken over, and has lasted too long. -/
theorem Seek.overdue (st : Seek n raised g g') {r : Ref} (hr : r ∈ g.pool.active)
    (hout : r ∉ g'.pool.active) : g.pool.settings.checkoutTimeout <
      (g.pool.handle r).data.checkoutTime g'.env.now := by
  cases st with
  | rouse | stop | shut | takeIdle | refused | openNew | reject | giveUp | interrupted | timeOut
  | sleep => exact absurd hr hout
  | handOut => exact absurd (List.mem_append_left _ hr) hout
  | @takeOver e p a s rest held e' ho hi hf ha hh ht he =>
    obtain rfl : r = s := (List.mem_cons.1 (ha ▸ hr)).resolve_right hout
    rw [hh] at ht
    exact Nat.lt_of_lt_of_le ht (checkoutTime_mono _ he.now)

theorem Seeks.overdue (hs : Seeks n raised g g')
    (ho : Owned g.env g.pool (g.pool.live g.phase.hand)) {r : Ref} (hr : r ∈ g.pool.active)
    (hout : r ∉ g'.pool.active) : g.pool.settings.checkoutTimeout <
      (g.pool.handle r).data.checkoutTime g'.env.now := by
  -- Up to some step the handle was checked out as it was at first; with that step it was overdue.
  suffices hall : Owned g'.env g'.pool (g'.pool.live g'.phase.hand) ∧
      (r ∈ g'.pool.active ∧ g'.pool.handle r = g.pool.handle r ∨
        g.pool.settings.checkoutTimeout < (g.pool.handle r).data.checkoutTime g'.env.now) from
    hall.2.resolve_left fun h => hout h.1
  clear hout
  induction hs with
  | refl => exact ⟨ho, .inl ⟨hr, rfl⟩⟩
  | @tail g₁ g₂ hs st ih =>
    obtain ⟨ho₁, ⟨hr₁, hsame⟩ | hoverdue⟩ := ih
    · refine ⟨ho₁.seek st, ?_⟩
      by_cases hr₂ : r ∈ g₂.pool.active
      · exact .inl ⟨hr₂, (st.handle_of_active ho₁ hr₁ hr₂).trans hsame⟩
      · have hoverdue := st.overdue hr₁ hr₂
        rw [hsame, Seeks.settings hs] at hoverdue
        exact .inr hoverdue
    · exact ⟨ho₁.seek st, .inr (Nat.lt_of_lt_of_le hoverdue (checkoutTime_mono _ st.grows.now))⟩

/-- The time of a checkout that is taken over is part of the time of all checkouts. -/
theorem Seek.overdueTime_le (st : Seek n raised g g')
    (h : g.pool.tally.overdueTime ≤ g.pool.tally.checkoutTime) :
    g'.pool.tally.overdueTime ≤ g'.pool.tally.checkoutTime := by
  cases st with
  | rouse | stop | shut | takeIdle | refused | openNew | handOut | reject | giveUp => exact h
  | takeOver => exact Nat.add_le_add_right h _
  | @interrupted e p a | @timeOut e p a | @sleep e p a =>
    change (p.counted a).tally.overdueTime ≤ (p.counted a).tally.checkoutTime
    unfold counted
    cases a.waitCounted <;> exact h

end

/-! ## What callers give back -/

@[simp] theorem Pool.tally_emptied (p : Pool) : p.emptied.tally = p.tally := by rw [emptied_eq]

section

variable {n : Nat} {who : Handback} {e e' : Env} {p p' : Pool}

theorem Yield.tally (y : Yield n who e p e' p') :
    p'.tally.requests = p.tally.requests ∧ p'.tally.claimed = p.tally.claimed ∧
      p'.tally.waits = p.tally.waits := by
  cases y with
  | spurn | discard | store | close | letGo | detach => exact ⟨rfl, rfl, rfl⟩
  | drain | change | shutDown =>
    rw [tally_emptied]
    exact ⟨rfl, rfl, rfl⟩

/-- Nothing is found bad unless a handle is returned. -/
theorem Yield.bad (y : Yield n who e p e' p') (h : ∀ r, who ≠ .release r) :
    p'.tally.bad = p.tally.bad := by
  cases y with
  | spurn | discard | store | close => exact absurd rfl (h _)
  | letGo | detach => rfl
  | drain | change | shutDown => exact congrArg Tally.bad (tally_emptied _)

theorem Yield.overdueTime_le (y : Yield n who e p e' p')
    (h : p.tally.overdueTime ≤ p.tally.checkoutTime) :
    p'.tally.overdueTime ≤ p'.tally.checkoutTime := by
  cases y with
  | spurn | discard | letGo | detach => exact h
  | store | close => exact Nat.le_add_right_of_le h
  | drain | change | shutDown =>
    rw [tally_emptied]
    exact h

theorem Yield.mem_active (y : Yield n who e p e' p') {r : Ref} (hr : r ∈ p'.active) :
    r ∈ p.active := by
  cases y with
  | spurn | discard | store | close | letGo | detach => exact List.mem_of_mem_erase hr
  | drain | change | shutDown =>
    rw [active_emptied] at hr
    exact absurd hr List.not_mem_nil

end

namespace Pool

variable {S : Type} [Backend S]

/-- A connection is sound if its handle is valid and the probe finds nothing wrong. -/
theorem isSound_answer (r : Ref) (s : Scene S) :
    (isSound r s).1 = ((s.pool.handle r).valid &&
      ((Probe.ofSettings s.pool.settings).examine (s.pool.connOf r)
        ((s.pool.handle r).data.unusedFor s.env.now) s.toLine).1.healthy) := by
  unfold isSound
  rw [bind_run, handleAt_run]
  dsimp only
  cases (s.pool.handle r).valid with
  | false => rfl
  | true =>
    rw [if_pos rfl, bind_run, look_run, bind_run, now_run, bind_run, Bool.true_and]
    dsimp only
    cases hhealthy : (talk ((Probe.ofSettings s.pool.settings).examine (s.pool.handle r).raw.conn
      ((s.pool.handle r).data.unusedFor s.env.now)) s).1.healthy <;> exact hhealthy.symm

omit [Backend S] in
theorem store_tally (r : Ref) (s : Scene S) : (store r s).2.pool.tally = s.pool.tally := rfl

theorem closeReturned_tally (r : Ref) (s : Scene S) :
    (closeReturned r s).2.pool.tally = s.pool.tally := by
  rw [(closeReturned_chats r s).pool]
  rfl

/-- The return of a handle is counted if it is not sound. -/
theorem release_bad (r : Ref) (s : Scene S) :
    (release r s).2.pool.tally.bad = s.pool.tally.bad + if (isSound r s).1 then 0 else 1 := by
  suffices h : Ends (release r) s fun _ s' =>
      s'.pool.tally.bad = s.pool.tally.bad + if (isSound r s).1 then 0 else 1 from h
  have hsound : Ends (isSound r) { s with pool := s.pool.checkedIn r } fun sound s₁ =>
      sound = (isSound r s).1 ∧ s₁.pool = s.pool.checkedIn r := by
    refine ⟨?_, (isSound_chats r _).pool⟩
    rw [isSound_answer, isSound_answer]
    rfl
  refine .bind <| .update <| .bind <| hsound.mono fun sound s₁ ⟨heq, hpool⟩ => ?_
  rw [← heq]
  cases sound with
  | true =>
    refine .bind <| .now <| .bind <| .handleAt <| .bind <| .count <| .bind <|
      .chats (isCleared_chats r _) fun clean s₂ h₂ => .bind <| .look ?_
    have htally : s₂.pool.tally.bad = s.pool.tally.bad := by
      rw [h₂.pool, hpool]
      rfl
    split
    · exact (congrArg Tally.bad (store_tally r s₂)).trans htally
    · exact (congrArg Tally.bad (closeReturned_tally r s₂)).trans htally
  | false =>
    refine .bind <| .handleAt <| .bind <| .note <| .bind <| .count ?_
    have htally : s₁.pool.tally.bad = s.pool.tally.bad := by
      rw [hpool]
      rfl
    split
    · have hscrap := scrap_chats r
        { s₁ with
          env := s₁.env.note (.returnedBad (s₁.pool.handle r).raw.id)
          pool.tally := { s₁.pool.tally with bad := s₁.pool.tally.bad + 1 } }
      exact (congrArg (·.tally.bad) hscrap.pool).trans (congrArg (· + 1) htally)
    · exact congrArg (· + 1) htally

end Pool

end ConnPool
