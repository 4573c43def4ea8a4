import ConnPool.Proofs.Pool.Bounded
import ConnPool.Proofs.Pool.Tally

/-!
# Going through candidates

A turn of an acquire can end in many ways, and the ways to end do not mix. As long as it has taken
no candidate in hand it has changed nothing but the counts (`Stage.Untouched`). Once it has, the
candidate came out of the lists or there was room for it, so there is room in the pool from then on
(`Stage.Sifting`), and a pool that has room neither lets an acquire wait nor has a checkout taken
over. So a checkout is taken over as the first candidate of a turn or not at all (`Sifts`).

* `Seek.reclaimed`: a handle becomes one that was taken over in no other way.
* `Seeks.handle_same`: what stays in the lists stays as it is.

**Theorem (`Seeks.course`).** A turn leaves the pool untouched and ends for lack of a candidate, or
it goes through candidates to the end, and takes over one checkout at most.
-/

namespace ConnPool

open Pool

/-! ## Checkouts that may be taken over -/

namespace Pool

/-- The state of a handle. -/
def stateOf (p : Pool) (r : Ref) : HandleState := (p.handle r).data.state

/-- The checkout of `r` is the one that an acquire would take over. -/
structure Forfeit (p : Pool) (t : Instant) (r : Ref) : Prop where
  idle : p.idle = []
  full : p.settings.maxActive ≤ p.active.length
  first : p.active.head? = some r
  overdue : p.settings.checkoutTimeout < (p.handle r).data.checkoutTime t

theorem Forfeit.mem {p : Pool} {t : Instant} {r : Ref} (h : p.Forfeit t r) : r ∈ p.active :=
  List.mem_of_mem_head? h.first

theorem stateOf_congr {p p' : Pool} (h : p'.handles = p.handles) (r : Ref) :
    p'.stateOf r = p.stateOf r := by
  rw [stateOf, stateOf, handle_congr h]

theorem lt_of_reclaimed {p : Pool} {r : Ref} (h : p.stateOf r = .reclaimed) :
    r < p.handles.length := by
  by_contra hr
  rw [stateOf, handle_of_length_le (Nat.le_of_not_lt hr)] at h
  exact HandleState.noConfusion h

theorem handle_passOn_self (p : Pool) {r : Ref} (hr : r < p.handles.length) (state : HandleState)
    (data : Metadata) : (p.passOn r state data).handle r = (p.handle r).retire state := by
  rw [passOn, handle_add_ne, handle_withHandle_self _ hr]
  rw [length_withHandle]
  exact Nat.ne_of_lt hr

theorem stateOf_withHandle_ne (p : Pool) {r s : Ref} (f : Handle → Handle) (h : s ≠ r) :
    (p.withHandle r f).stateOf s = p.stateOf s := by
  rw [stateOf, handle_withHandle_ne p f h, stateOf]

/-- A handle does not become one that was taken over by a change to another state. -/
theorem stateOf_withHandle {p : Pool} {r s : Ref} {f : Handle → Handle}
    (hf : ∀ h, (f h).data.state ≠ .reclaimed)
    (h : (p.withHandle r f).stateOf s = .reclaimed) : p.stateOf s = .reclaimed := by
  by_cases hs : s = r
  · subst hs
    by_cases hlt : s < p.handles.length
    · rw [stateOf, handle_withHandle_self _ hlt] at h
      exact absurd h (hf _)
    · have hlt' := lt_of_reclaimed h
      rw [length_withHandle] at hlt'
      exact absurd hlt' hlt
  · rwa [stateOf_withHandle_ne p _ hs] at h

theorem stateOf_retire {p : Pool} {r s : Ref} {state : HandleState} (hstate : state ≠ .reclaimed)
    (h : (p.withHandle r (·.retire state)).stateOf s = .reclaimed) : p.stateOf s = .reclaimed :=
  stateOf_withHandle (fun _ => hstate) h

theorem stateOf_add {p : Pool} {x : Handle} {s : Ref} (hx : x.data.state ≠ .reclaimed)
    (h : (p.add x).stateOf s = .reclaimed) : p.stateOf s = .reclaimed := by
  by_cases hs : s = p.handles.length
  · subst hs
    rw [stateOf, handle_add_self] at h
    exact absurd h hx
  · rwa [stateOf, handle_add_ne p x hs] at h

end Pool

section

variable {n : Nat} {raised : Bool} {g g₁ g' : Stage}

/-- A handle becomes one that was taken over where its checkout is the first to be. -/
theorem Seek.reclaimed (st : Seek n raised g g') {r : Ref} (h : g'.pool.stateOf r = .reclaimed) :
    g.pool.stateOf r = .reclaimed ∨ g.pool.Forfeit g.env.now r := by
  cases st with
  | rouse | stop | shut | takeIdle | refused | interrupted | timeOut | sleep => exact .inl h
  | openNew => exact .inl (stateOf_add (by simp [Metadata.first]) h)
  | @takeOver e p a s rest held e' ho hi hf ha hh ht =>
    by_cases hr : r = s
    · subst hr
      exact .inr ⟨hi, hf, by rw [ha]; rfl, hh ▸ ht⟩
    · have hadd := stateOf_add (by simp [Metadata.renew]) h
      rw [stateOf_withHandle_ne _ _ hr] at hadd
      exact .inl hadd
  | @handOut e p a s e' =>
    have hstate : ∀ h : Handle, (h.data.checkOut (p.target.withLogin a.login).endpoint e'.now).state
        ≠ .reclaimed := fun _ => by simp [Metadata.checkOut]
    exact .inl (stateOf_withHandle hstate h)
  | reject | giveUp => exact .inl (stateOf_retire (by decide) h)

/-- A handle stays as it is unless it is the candidate in hand, or a checkout that ends. -/
theorem Seek.handle_same (st : Seek n raised g g')
    (ho : Owned g.env g.pool (g.pool.live g.phase.hand)) {s : Ref}
    (hs : s < g.pool.handles.length) (hhand : ∀ a, g.phase.hand ≠ some (a, s))
    (hstay : s ∈ g.pool.active → s ∈ g'.pool.active) : g'.pool.handle s = g.pool.handle s := by
  cases st with
  | rouse | stop | shut | takeIdle | refused | interrupted | timeOut | sleep => rfl
  | openNew => exact handle_add_ne _ _ (Nat.ne_of_lt hs)
  | @takeOver e p a r rest held e' _ hi hf ha =>
    have hnodup : (r :: rest).Nodup := ha ▸ ho.nodup_active
    have hne : s ≠ r := by
      intro heq
      subst heq
      have hrest : s ∈ rest := hstay (ha ▸ List.mem_cons_self ..)
      exact (List.nodup_cons.1 hnodup).1 hrest
    exact handle_passOn_ne p _ _ hne (Nat.ne_of_lt hs)
  | @handOut e p a r | @reject e p a r | @giveUp e p a r =>
    have hne : s ≠ r := by
      intro heq
      subst heq
      exact hhand a rfl
    exact handle_withHandle_ne p _ hne

/-- A handle that is retired stays as it is. -/
theorem Seek.handle_of_retired (st : Seek n raised g g')
    (ho : Owned g.env g.pool (g.pool.live g.phase.hand)) {s : Ref} (hs : g.pool.Retired s) :
    g'.pool.handle s = g.pool.handle s := by
  have hnot : s ∉ g.pool.live g.phase.hand := fun hlive =>
    Bool.false_ne_true (hs.2.symm.trans ((ho.valid s).2 hlive))
  refine st.handle_same ho hs.1 ?_ ?_
  · intro a hhand
    rw [hhand] at hnot
    exact hnot (List.mem_cons_self ..)
  · intro hactive
    exact absurd (mem_live_of_active hactive) hnot

/-- Nothing is put into the idle list in a turn. -/
theorem Seek.idle (st : Seek n raised g g') : g'.pool.idle <:+ g.pool.idle := by
  cases st with
  | takeIdle _ hi =>
    rw [hi]
    exact List.suffix_cons ..
  | _ => exact List.suffix_refl _

theorem Seeks.idle (hs : Seeks n raised g g') : g'.pool.idle <:+ g.pool.idle := by
  induction hs with
  | refl => exact List.suffix_refl _
  | tail _ st ih => exact st.idle.trans ih

/-- What is in the lists after a turn was there before it and is as it was, but for the handle that
the turn hands out. -/
theorem Seeks.handle_same (hs : Seeks n raised g g')
    (ho : Owned g.env g.pool (g.pool.live g.phase.hand)) {s : Ref} (hin : s ∈ g'.pool.live none)
    (hnew : s ∉ g'.phase.handed) :
    s ∈ g.pool.live none ∧ g'.pool.handle s = g.pool.handle s := by
  suffices hall : Owned g'.env g'.pool (g'.pool.live g'.phase.hand) ∧
      ∀ s ∈ g'.pool.live none, s ∉ g'.phase.handed →
        s ∈ g.pool.live none ∧ g'.pool.handle s = g.pool.handle s from hall.2 s hin hnew
  clear hin hnew
  induction hs with
  | refl => exact ⟨ho, fun s hin _ => ⟨hin, rfl⟩⟩
  | @tail g₁ g₂ hs st ih =>
    obtain ⟨ho₁, ih⟩ := ih
    refine ⟨ho₁.seek st, fun s hin hnew => ?_⟩
    have hin₁ : s ∈ g₁.pool.live none := by
      rw [mem_live_none] at hin ⊢
      exact hin.imp (fun h => (st.mem_active h).resolve_right hnew) (st.idle.subset ·)
    have hold := ih s hin₁ (by rw [st.handed_eq_nil]; exact List.not_mem_nil)
    refine ⟨hold.1, Eq.trans ?_ hold.2⟩
    have hlisted : s ∈ g₁.pool.active ++ g₁.pool.idle := hin₁
    refine st.handle_same ho₁ (ho₁.lt (List.mem_append_right _ hlisted)) ?_ ?_
    · intro a hhand
      rw [hhand] at ho₁
      exact ho₁.hand_notMem hlisted
    · intro hactive
      rcases mem_live_none.1 hin with h | h
      · exact h
      · exact absurd (st.idle.subset h) (ho₁.notMem_idle hactive)

/-! ## Turns without a candidate -/

/-- The turn ends before the acquire has taken a candidate in hand: the pool is shut down, or it has
none to offer. -/
def Turn.inVain : Turn → Bool
  | .done _ (.error .closed) => true
  | turn => turn.isUnserved

/-- The acquire has had no candidate in hand in this turn. -/
def Phase.Vain : Phase → Prop
  | .woken .. | .seeking _ => True
  | .judging .. => False
  | .ended turn => turn.inVain = true

theorem Phase.Starts.vain {phase : Phase} (h : phase.Starts) : phase.Vain := by
  cases phase with
  | woken | seeking => trivial
  | judging | ended => exact h.elim

/-- Between two stages of a turn no time passes and nobody talks to the backend. The pool is the
same but for what it counts. -/
structure Stage.Untouched (g g' : Stage) : Prop where
  now : g'.env.now = g.env.now
  calls : g'.env.calls = g.env.calls
  pool : g'.pool = { g.pool with tally := g'.pool.tally }
  bad : g'.phase.acquire.bad = g.phase.acquire.bad

namespace Stage.Untouched

theorem refl (g : Stage) : g.Untouched g := ⟨rfl, rfl, rfl, rfl⟩

theorem trans (h₁ : g.Untouched g₁) (h₂ : g₁.Untouched g') : g.Untouched g' where
  now := h₂.now.trans h₁.now
  calls := h₂.calls.trans h₁.calls
  pool := by rw [h₂.pool, h₁.pool]
  bad := h₂.bad.trans h₁.bad

theorem active (h : g.Untouched g') : g'.pool.active = g.pool.active := by rw [h.pool]

theorem idle (h : g.Untouched g') : g'.pool.idle = g.pool.idle := by rw [h.pool]

theorem handles (h : g.Untouched g') : g'.pool.handles = g.pool.handles := by rw [h.pool]

theorem settings (h : g.Untouched g') : g'.pool.settings = g.pool.settings := by rw [h.pool]

theorem stateOf (h : g.Untouched g') (r : Ref) : g'.pool.stateOf r = g.pool.stateOf r :=
  stateOf_congr h.handles r

theorem forfeit (h : g.Untouched g') {r : Ref} (hr : g'.pool.Forfeit g'.env.now r) :
    g.pool.Forfeit g.env.now r where
  idle := h.idle ▸ hr.idle
  full := h.settings ▸ h.active ▸ hr.full
  first := h.active ▸ hr.first
  overdue := by
    have hlate := hr.overdue
    rwa [h.settings, handle_congr h.handles, h.now] at hlate

end Stage.Untouched

/-! ## Turns with a candidate -/

/-- The acquire has a candidate in hand, or looks for the next one, and there is room for it. -/
structure Stage.Sifting (g : Stage) : Prop where
  phase : (∃ a, g.phase = .seeking a) ∨ ∃ a r, g.phase = .judging a r
  isOpen : g.pool.closed = false
  room : g.pool.active.length + g.pool.idle.length < g.pool.settings.maxActive

theorem Stage.Sifting.not_forfeit (h : g.Sifting) {t : Instant} {r : Ref} :
    ¬g.pool.Forfeit t r := by
  intro hr
  have hroom := h.room
  have hfull := hr.full
  omega

/-- The acquire has gone through candidates between two stages of its turn, `gone` is the checkout
that it took over, and otherwise the checkouts are the same. -/
structure Stage.Sifts (gone : Option Ref) (g g' : Stage) : Prop where
  phase : g'.Sifting ∨ ∃ turn, g'.phase = .ended turn ∧ turn.inVain = false
  active : g.pool.active ++ g'.phase.handed = gone.toList ++ g'.pool.active
  forfeit : ∀ r ∈ gone, g.pool.Forfeit g.env.now r
  reclaimed : ∀ r, g'.pool.stateOf r = .reclaimed → g.pool.stateOf r = .reclaimed ∨ r ∈ gone
  spent : ∀ r ∈ gone, (g'.pool.handle r).valid = false ∧ g'.pool.stateOf r = .reclaimed

/-- In a pool that has room the acquire goes on, or ends with a handle, or gives up. -/
theorem Seek.sifting (st : Seek n raised g g') (h : g.Sifting) :
    g'.Sifting ∨ ∃ turn, g'.phase = .ended turn ∧ turn.inVain = false := by
  obtain ⟨hphase, hopen, hroom⟩ := h
  cases st with
  | rouse | stop => simp at hphase
  | shut hc => exact absurd (hopen.symm.trans hc) Bool.false_ne_true
  | @takeIdle e p a r rest ho hi =>
    simp only [hi, List.length_cons] at hroom
    refine .inl ⟨.inr ⟨a, r, rfl⟩, ho, ?_⟩
    change p.active.length + rest.length < p.settings.maxActive
    omega
  | refused | handOut | giveUp => exact .inr ⟨_, rfl, rfl⟩
  | openNew => exact .inl ⟨.inr ⟨_, _, rfl⟩, hopen, hroom⟩
  | takeOver ho hi hf =>
    dsimp only at hroom
    omega
  | reject => exact .inl ⟨.inl ⟨_, rfl⟩, hopen, hroom⟩
  | interrupted hp | timeOut hp | sleep hp =>
    have hfull := hp.full
    dsimp only at hroom
    omega

/-- Nor is a checkout taken over in such a pool. -/
theorem Seek.active_of_sifting (st : Seek n raised g g') (h : g.Sifting) :
    g'.pool.active = g.pool.active ++ g'.phase.handed := by
  cases st with
  | handOut => rfl
  | takeOver _ _ hf =>
    have hroom := h.room
    dsimp only at hroom
    omega
  | _ => exact (List.append_nil _).symm

namespace Stage.Sifts

variable {gone : Option Ref}

/-- Once it has gone through a candidate the acquire does nothing else in this turn. -/
theorem next (h : g.Sifts gone g₁) (st : Seek n raised g₁ g')
    (ho : Owned g₁.env g₁.pool (g₁.pool.live g₁.phase.hand)) : g.Sifts gone g' := by
  have hsifting : g₁.Sifting := h.phase.resolve_right fun ⟨turn, hended, _⟩ =>
    st.ne_ended turn hended
  constructor
  case phase => exact st.sifting hsifting
  case active =>
    have hbefore := h.active
    rw [st.handed_eq_nil, List.append_nil] at hbefore
    rw [st.active_of_sifting hsifting, hbefore, List.append_assoc]
  case forfeit => exact h.forfeit
  case reclaimed =>
    intro r hr
    exact h.reclaimed r ((st.reclaimed hr).resolve_right hsifting.not_forfeit)
  case spent =>
    intro r hr
    obtain ⟨hretired, hstate⟩ := h.spent r hr
    have hsame := st.handle_of_retired ho ⟨lt_of_reclaimed hstate, hretired⟩
    rw [stateOf, hsame]
    exact ⟨hretired, hstate⟩

/-- The pool was left untouched up to the first candidate. -/
theorem after (h : g₁.Sifts gone g') (hu : g.Untouched g₁) : g.Sifts gone g' where
  phase := h.phase
  active := hu.active ▸ h.active
  forfeit r hr := hu.forfeit (h.forfeit r hr)
  reclaimed r hr := hu.stateOf r ▸ h.reclaimed r hr
  spent := h.spent

end Stage.Sifts

/-- The step with which a turn comes to its first candidate, or another one before that. -/
theorem Seek.opening (st : Seek n raised g g') (hv : g.phase.Vain)
    (ho : Owned g.env g.pool (g.pool.live g.phase.hand)) (hb : Bounded g.pool g.phase.hand) :
    g.Untouched g' ∧ g'.phase.Vain ∨ ∃ gone, g.Sifts gone g' := by
  have hreclaimed : ∀ r, g'.pool.stateOf r = .reclaimed →
      g.pool.stateOf r = .reclaimed ∨ g.pool.Forfeit g.env.now r := fun r => st.reclaimed
  have hkept : (∀ r, ¬g.pool.Forfeit g.env.now r) → ∀ r, g'.pool.stateOf r = .reclaimed →
      g.pool.stateOf r = .reclaimed ∨ r ∈ (none : Option Ref) := fun hnone r hr =>
    .inl ((hreclaimed r hr).resolve_right (hnone r))
  have htotal := hb.total
  cases st with
  | rouse => exact .inl ⟨⟨rfl, rfl, rfl, rfl⟩, trivial⟩
  | stop | shut | interrupted | timeOut | sleep => exact .inl ⟨⟨rfl, rfl, rfl, rfl⟩, rfl⟩
  | @takeIdle e p a r rest hopen hi =>
    simp only [hi, List.length_cons] at htotal
    have hnone : ∀ s, ¬p.Forfeit e.now s := fun s hs => nomatch hi.symm.trans hs.idle
    refine .inr ⟨none, .inl ⟨.inr ⟨a, r, rfl⟩, hopen, ?_⟩, List.append_nil _, nofun, hkept hnone,
      nofun⟩
    change p.active.length + rest.length < p.settings.maxActive
    omega
  | @refused e p a e' outcome fault hroom =>
    have hnone : ∀ s, ¬p.Forfeit e.now s := fun s hs => Nat.not_le_of_lt hroom.room hs.full
    exact .inr ⟨none, .inr ⟨_, rfl, rfl⟩, List.append_nil _, nofun, hkept hnone, nofun⟩
  | @openNew e p a e' hroom =>
    have hnone : ∀ s, ¬p.Forfeit e.now s := fun s hs => Nat.not_le_of_lt hroom.room hs.full
    refine .inr ⟨none, .inl ⟨.inr ⟨a, _, rfl⟩, hroom.isOpen, ?_⟩, List.append_nil _, nofun,
      hkept hnone, nofun⟩
    change p.active.length + p.idle.length < p.settings.maxActive
    rw [hroom.idle]
    exact hroom.room
  | @takeOver e p a r rest held e' hopen hi hf ha hh ht he =>
    have hr : r < p.handles.length := ho.lt (mem_live_of_active (ha ▸ List.mem_cons_self ..))
    have hforfeit : p.Forfeit e.now r := ⟨hi, hf, by rw [ha]; rfl, hh ▸ ht⟩
    simp only [ha, List.length_cons] at htotal
    refine .inr ⟨some r, ?_⟩
    constructor
    case phase =>
      refine .inl ⟨.inr ⟨a, _, rfl⟩, hopen, ?_⟩
      change rest.length + p.idle.length < p.settings.maxActive
      omega
    case active => exact (List.append_nil _).trans ha
    case forfeit =>
      intro s hs
      cases hs
      exact hforfeit
    case reclaimed =>
      intro s hs
      exact (hreclaimed s hs).imp_right fun h => hforfeit.first.symm.trans h.first
    case spent =>
      intro s hs
      cases hs
      have hself : (p.takenOver r rest held e'.nextHandle).handle r =
          (p.handle r).retire .reclaimed := handle_passOn_self _ hr _ _
      rw [stateOf, hself]
      exact ⟨rfl, rfl⟩
  | handOut | reject | giveUp => exact hv.elim

/-- A turn goes through candidates, or it is in vain and leaves the pool untouched. -/
theorem Seeks.course (hs : Seeks n raised g g') (hstart : g.phase.Starts)
    (ho : Owned g.env g.pool (g.pool.live g.phase.hand)) (hb : Bounded g.pool g.phase.hand) :
    g.Untouched g' ∧ g'.phase.Vain ∨ ∃ gone, g.Sifts gone g' := by
  suffices hall : (Owned g'.env g'.pool (g'.pool.live g'.phase.hand) ∧
      Bounded g'.pool g'.phase.hand) ∧
        (g.Untouched g' ∧ g'.phase.Vain ∨ ∃ gone, g.Sifts gone g') from hall.2
  induction hs with
  | refl => exact ⟨⟨ho, hb⟩, .inl ⟨.refl g, hstart.vain⟩⟩
  | tail hs st ih =>
    obtain ⟨⟨ho₁, hb₁⟩, hcourse⟩ := ih
    refine ⟨⟨ho₁.seek st, hb₁.seek st⟩, ?_⟩
    rcases hcourse with ⟨hu, hv⟩ | ⟨gone, h⟩
    · rcases st.opening hv ho₁ hb₁ with ⟨hu₁, hv₁⟩ | ⟨gone, h⟩
      · exact .inl ⟨hu.trans hu₁, hv₁⟩
      · exact .inr ⟨gone, h.after hu⟩
    · exact .inr ⟨gone, h.next st ho₁⟩

variable {e : Env} {p : Pool} {turn : Turn}

theorem Seeks.untouched (hs : Seeks n raised g ⟨e, p, .ended turn⟩) (hstart : g.phase.Starts)
    (ho : Owned g.env g.pool (g.pool.live g.phase.hand)) (hb : Bounded g.pool g.phase.hand)
    (hturn : turn.inVain = true) : g.Untouched ⟨e, p, .ended turn⟩ := by
  rcases hs.course hstart ho hb with ⟨hu, -⟩ | ⟨gone, h⟩
  · exact hu
  · rcases h.phase with ⟨⟨a, ha⟩ | ⟨a, r, ha⟩, -, -⟩ | ⟨other, heq, hother⟩
    · exact nomatch ha
    · exact nomatch ha
    · cases heq
      exact absurd (hother.symm.trans hturn) Bool.false_ne_true

theorem Seeks.sifts (hs : Seeks n raised g ⟨e, p, .ended turn⟩) (hstart : g.phase.Starts)
    (ho : Owned g.env g.pool (g.pool.live g.phase.hand)) (hb : Bounded g.pool g.phase.hand)
    (hturn : turn.inVain = false) : ∃ gone, g.Sifts gone ⟨e, p, .ended turn⟩ := by
  rcases hs.course hstart ho hb with ⟨-, hv⟩ | h
  · exact absurd (hturn.symm.trans hv) Bool.false_ne_true
  · exact h

end

end ConnPool
