import ConnPool.Proofs.Pool.Sifting

/-!
# The life of a handle

A handle is made, is checked out or waits in the idle list, and comes to an end. What its state says
is also in the lists of the pool and in the flag that makes it valid, and a dozen operations write
to the three of them. `HandleState.next` names the moves from one state to another.

* `InStep`: the states of the handles agree with the lists. Steps of turns and operations keep it.
* `Seeks.ages`, `Yield.ages`: what a turn or an operation makes of a state is the same state, or one
  that may come next. A turn makes one move at most, because after the first one the handle is done
  or the turn is over.
* `Issues`: a new handle gets the next number, and no handle loses the number that it has.
-/

namespace ConnPool

open Pool

namespace HandleState

/-- The states that may come right after a state. -/
def next : HandleState → List HandleState
  | created => [active, idle, invalid]
  | idle => [active, closed, invalid]
  | active => [closed, reclaimed, invalid]
  | closed | reclaimed | invalid => []

/-- Nothing comes after a terminal state, and something after each of the others. -/
theorem next_eq_nil_iff {s : HandleState} : s.next = [] ↔ s.isTerminal = true := by
  cases s <;> simp [next, isTerminal]

end HandleState

namespace Pool

/-! ## States in the table -/

/-- A handle that is not made yet counts as one that was just made. -/
theorem stateOf_of_length_le {p : Pool} {r : Ref} (h : p.handles.length ≤ r) :
    p.stateOf r = .created := by
  rw [stateOf, handle_of_length_le h]
  rfl

theorem stateOf_retire_self {p : Pool} {r : Ref} (hr : r < p.handles.length) (state : HandleState) :
    (p.withHandle r (·.retire state)).stateOf r = state := by
  rw [stateOf, handle_withHandle_self _ hr]
  rfl

theorem stateOf_add_ne {p : Pool} (x : Handle) {s : Ref} (hs : s ≠ p.handles.length) :
    (p.add x).stateOf s = p.stateOf s := by
  rw [stateOf, handle_add_ne p x hs, stateOf]

theorem stateOf_add_self (p : Pool) (x : Handle) :
    (p.add x).stateOf p.handles.length = x.data.state := by
  rw [stateOf, handle_add_self]

theorem stateOf_handedOut_self {p : Pool} {a : Acquire} {r : Ref} (hr : r < p.handles.length)
    (t : Instant) : (p.handedOut a r t).stateOf r = .active :=
  congrArg (·.data.state) (handle_withHandle_self _ hr)

end Pool

/-! ## States and lists -/

/-- The states of the handles of a pool agree with its lists. -/
structure InStep (p : Pool) (hand : Option (Acquire × Ref)) : Prop where
  idle : ∀ r ∈ p.idle, p.stateOf r = .idle
  active : ∀ r ∈ p.active, p.stateOf r = .active
  /-- The handles in no list are done, but for the candidate in the hand of an acquire. -/
  done : ∀ r < p.handles.length, r ∉ p.live hand → (p.stateOf r).isTerminal = true
  /-- That one comes from the idle list, or it is new. -/
  hand : ∀ a r, hand = some (a, r) → p.stateOf r = .idle ∨ p.stateOf r = .created

namespace InStep

variable {p p' q : Pool} {hand hand' : Option (Acquire × Ref)} {r : Ref}

theorem empty (settings : Settings) (target : Target) : InStep (.empty settings target) none where
  idle _ hr := absurd hr List.not_mem_nil
  active _ hr := absurd hr List.not_mem_nil
  done _ hr := absurd hr (Nat.not_lt_zero _)
  hand _ _ h := nomatch h

/-- Nothing changes but what the lists and the table do not tell of. -/
theorem same (h : InStep p none) (ht : p'.handles = p.handles) (hi : p'.idle = p.idle)
    (ha : p'.active = p.active) : InStep p' none := by
  have hstate := stateOf_congr ht
  constructor
  case idle => exact fun s hs => (hstate s).trans (h.idle s (hi ▸ hs))
  case active => exact fun s hs => (hstate s).trans (h.active s (ha ▸ hs))
  case hand => exact fun _ _ hs => nomatch hs
  case done =>
    intro s hs hout
    rw [hstate]
    refine h.done s (ht ▸ hs) ?_
    rwa [live, ha, hi] at hout

/-- A handle leaves the lists as it is retired. -/
theorem retire {state : HandleState} (h : InStep p hand) (hr : r < p.handles.length)
    (hstate : state.isTerminal = true) (ht : q.handles = p.handles)
    (hidle : ∀ s ∈ q.idle, s ∈ p.idle ∧ s ≠ r) (hactive : ∀ s ∈ q.active, s ∈ p.active ∧ s ≠ r)
    (hlive : ∀ s ∈ p.live hand, s = r ∨ s ∈ q.live none) :
    InStep (q.withHandle r (·.retire state)) none := by
  have hother : ∀ s, s ≠ r → (q.withHandle r (·.retire state)).stateOf s = p.stateOf s :=
    fun s hs => (stateOf_withHandle_ne q _ hs).trans (stateOf_congr ht s)
  constructor
  case idle => exact fun s hs => (hother s (hidle s hs).2).trans (h.idle s (hidle s hs).1)
  case active => exact fun s hs => (hother s (hactive s hs).2).trans (h.active s (hactive s hs).1)
  case hand => exact fun _ _ hs => nomatch hs
  case done =>
    intro s hs hout
    by_cases hsr : s = r
    · subst hsr
      rwa [stateOf_retire_self (ht ▸ hr)]
    · rw [hother s hsr]
      rw [length_withHandle, ht] at hs
      exact h.done s hs fun hin => hout ((hlive s hin).resolve_left hsr)

/-- A new handle goes into the idle list or into the hand of an acquire. -/
theorem enter {x : Handle} (h : InStep p none) (hlt : ∀ s ∈ p.live none, s < p.handles.length)
    (ht : p'.handles = (p.add x).handles)
    (hidle : ∀ s ∈ p'.idle, s ∈ p.idle ∨ s = p.handles.length ∧ x.data.state = .idle)
    (hactive : p'.active = p.active)
    (hhand : ∀ a s, hand' = some (a, s) → s = p.handles.length ∧ x.data.state = .created)
    (hlive : ∀ s, s ∈ p.live none ∨ s = p.handles.length → s ∈ p'.live hand') :
    InStep p' hand' := by
  have hnew : p'.stateOf p.handles.length = x.data.state :=
    (stateOf_congr ht _).trans (stateOf_add_self p x)
  have hold : ∀ s < p.handles.length, p'.stateOf s = p.stateOf s := fun s hs =>
    (stateOf_congr ht s).trans (stateOf_add_ne x (Nat.ne_of_lt hs))
  constructor
  case idle =>
    intro s hs
    rcases hidle s hs with hs | ⟨rfl, hx⟩
    · exact (hold s (hlt s (mem_live_of_idle hs))).trans (h.idle s hs)
    · exact hnew.trans hx
  case active =>
    intro s hs
    rw [hactive] at hs
    exact (hold s (hlt s (mem_live_of_active hs))).trans (h.active s hs)
  case hand =>
    intro a s hs
    obtain ⟨rfl, hx⟩ := hhand a s hs
    exact .inr (hnew.trans hx)
  case done =>
    intro s hs hout
    rw [ht, length_add] at hs
    have hne : s ≠ p.handles.length := fun heq => hout (hlive s (.inr heq))
    have hlt' : s < p.handles.length := by omega
    rw [hold s hlt']
    exact h.done s hlt' fun hin => hout (hlive s (.inl hin))

theorem emptied (h : InStep p none) (ht : q.handles = p.handles) (hi : q.idle = p.idle)
    (ha : q.active = p.active) : InStep q.emptied none := by
  have hlive : q.emptied.live none = [] := by simp [live]
  constructor
  case idle => simp
  case active => simp
  case hand =>
    intro a r hhand
    cases hhand
  case done =>
    intro s hs _
    rw [length_emptied] at hs
    by_cases hin : s ∈ q.active ++ q.idle
    · rw [stateOf, handle_emptied_of_mem hin hs]
      rfl
    · rw [stateOf, handle_emptied_of_notMem hin, handle_congr ht]
      refine h.done s (ht ▸ hs) ?_
      change s ∉ p.active ++ p.idle
      rwa [ha, hi] at hin

/-! ## Turns and operations -/

variable {a : Acquire} {rest : List Ref} {e : Env}

/-- The first idle handle is taken in hand. -/
theorem takeIdle (h : InStep p none) (hi : p.idle = r :: rest) :
    InStep { p with idle := rest } (some (a, r)) := by
  have hmem : ∀ s, s ∈ r :: rest ↔ s ∈ p.idle := fun s => by rw [hi]
  constructor
  case idle => exact fun s hs => h.idle s ((hmem s).1 (List.mem_cons_of_mem _ hs))
  case active => exact h.active
  case hand =>
    intro b s hs
    cases hs
    exact .inl (h.idle r ((hmem r).1 (List.mem_cons_self ..)))
  case done =>
    intro s hs hout
    refine h.done s hs fun hin => hout (mem_live_some.2 ?_)
    rcases mem_live_none.1 hin with hin | hin
    · exact .inr (.inl hin)
    · exact (List.mem_cons.1 ((hmem s).2 hin)).imp_right .inr

/-- The oldest checkout is reclaimed, and its connection gets a new handle. -/
theorem takenOver (h : InStep p none) (ho : Owned e p (p.live none)) (ha : p.active = r :: rest)
    (held : Span) (id : Nat) :
    InStep (p.takenOver r rest held id) (some (a, p.handles.length)) := by
  have hnodup : (r :: rest).Nodup := ha ▸ ho.nodup_active
  have hr : r ∈ p.active := ha ▸ List.mem_cons_self ..
  have hgone : InStep (({ p with active := rest } : Pool).withHandle r (·.retire .reclaimed))
      none := by
    refine h.retire (ho.lt (mem_live_of_active hr)) rfl rfl (fun s hs => ?_) (fun s hs => ?_)
      fun s hs => ?_
    · exact ⟨hs, fun heq => ho.notMem_idle hr (heq ▸ hs)⟩
    · refine ⟨ha ▸ List.mem_cons_of_mem _ hs, ?_⟩
      rintro rfl
      exact (List.nodup_cons.1 hnodup).1 hs
    · rcases mem_live_none.1 hs with hs | hs
      · exact (List.mem_cons.1 (ha ▸ hs)).imp_right mem_live_of_active
      · exact .inr (mem_live_of_idle hs)
  have hlen : (({ p with active := rest } : Pool).withHandle r
      (·.retire .reclaimed)).handles.length = p.handles.length := length_withHandle ..
  refine hgone.enter (fun s hs => ?_) rfl (fun s hs => .inl hs) rfl (fun b s hs => ?_)
    fun s hs => ?_
  · rw [hlen]
    refine ho.lt (mem_live_none.2 ((mem_live_none.1 hs).imp_left fun hs => ?_))
    exact ha ▸ List.mem_cons_of_mem _ hs
  · cases hs
    exact ⟨hlen.symm, rfl⟩
  · rw [hlen] at hs
    exact mem_live_some.2 (hs.symm.imp_right mem_live_none.1)

/-- The candidate in the hand of an acquire is handed out. -/
theorem handedOut (h : InStep p (some (a, r))) (ho : Owned e p (p.live (some (a, r))))
    (t : Instant) : InStep (p.handedOut a r t) none := by
  have hnot := ho.hand_notMem
  have hother : ∀ s, s ≠ r → (p.handedOut a r t).stateOf s = p.stateOf s := fun s hs =>
    stateOf_withHandle_ne p _ hs
  constructor
  case idle =>
    intro s hs
    have hne : s ≠ r := fun heq => hnot (heq ▸ List.mem_append_right _ hs)
    exact (hother s hne).trans (h.idle s hs)
  case active =>
    intro s hs
    rcases List.mem_append.1 hs with hs | hs
    · have hne : s ≠ r := fun heq => hnot (heq ▸ List.mem_append_left _ hs)
      exact (hother s hne).trans (h.active s hs)
    · rw [List.mem_singleton.1 hs]
      exact stateOf_handedOut_self (ho.lt (mem_live_some.2 (.inl rfl))) t
  case hand => exact fun _ _ hs => nomatch hs
  case done =>
    intro s hs hout
    have hlive : ∀ u ∈ p.live (some (a, r)), u ∈ (p.handedOut a r t).live none := by
      intro u hu
      rcases mem_live_some.1 hu with rfl | hu | hu
      · exact mem_live_of_active (List.mem_append_right _ (List.mem_singleton_self u))
      · exact mem_live_of_active (List.mem_append_left _ hu)
      · exact mem_live_of_idle hu
    have hne : s ≠ r := fun heq => hout (hlive s (mem_live_some.2 (.inl heq)))
    rw [hother s hne]
    have hlen : (p.handedOut a r t).handles.length = p.handles.length := length_withHandle ..
    exact h.done s (hlen ▸ hs) fun hin => hout (hlive s hin)

/-- The candidate in the hand of an acquire is discarded. -/
theorem rejected (h : InStep p (some (a, r))) (ho : Owned e p (p.live (some (a, r)))) :
    InStep (p.rejected r) none := by
  have hnot := ho.hand_notMem
  refine h.retire (ho.lt (mem_live_some.2 (.inl rfl))) rfl rfl (fun s hs => ⟨hs, ?_⟩)
    (fun s hs => ⟨hs, ?_⟩) fun s hs => (mem_live_some.1 hs).imp_right mem_live_none.2
  · exact fun heq => hnot (heq ▸ List.mem_append_right _ hs)
  · exact fun heq => hnot (heq ▸ List.mem_append_left _ hs)

theorem seek {n : Nat} {raised : Bool} {g g' : Stage} (st : Seek n raised g g')
    (ho : Owned g.env g.pool (g.pool.live g.phase.hand)) (h : InStep g.pool g.phase.hand) :
    InStep g'.pool g'.phase.hand := by
  cases st with
  | rouse | stop | shut | refused | interrupted | timeOut | sleep => exact h.same rfl rfl rfl
  | takeIdle _ hi => exact h.takeIdle hi
  | openNew =>
    refine h.enter (fun s => ho.lt) rfl (fun s hs => .inl hs) rfl (fun b s hs => ?_) fun s hs => ?_
    · cases hs
      exact ⟨rfl, rfl⟩
    · exact mem_live_some.2 (hs.symm.imp_right mem_live_none.1)
  | takeOver _ _ _ ha => exact h.takenOver ho ha _ _
  | handOut => exact h.handedOut ho _
  | reject | giveUp => exact h.rejected ho

/-- A checkout ends, and its handle is retired. -/
theorem checkIn {state : HandleState} (h : InStep p none) (ho : Owned e p (p.live none))
    (hv : (p.handle r).valid = true) (hidle : r ∉ p.idle) (hstate : state.isTerminal = true)
    (ht : q.handles = p.handles) (hi : q.idle = p.idle) (ha : q.active = p.active.erase r) :
    InStep (q.withHandle r (·.retire state)) none := by
  refine h.retire (lt_of_valid hv) hstate ht (fun s hs => ?_) (fun s hs => ?_) fun s hs => ?_
  · rw [hi] at hs
    exact ⟨hs, fun heq => hidle (heq ▸ hs)⟩
  · rw [ha, ho.nodup_active.mem_erase_iff] at hs
    exact hs.symm
  · rw [live, hi, ha]
    exact List.mem_cons.1 ((ho.checkedIn hv hidle).valid s |>.1 ((ho.valid s).2 hs))

theorem yield {n : Nat} {who : Handback} {e' : Env} (y : Yield n who e p e' p')
    (ho : Owned e p (p.live none)) (hidle : ∀ r ∈ who.ref?, r ∉ p.idle) (h : InStep p none) :
    InStep p' none := by
  cases y with
  | spurn hv he => exact h.same rfl rfl (ho.erase_retired (by simp [hv]))
  | letGo hn => exact h.same rfl rfl (ho.erase_retired hn)
  | @discard _ _ r _ hv => exact h.checkIn (q := p.spurned r) ho hv (hidle r rfl) rfl rfl rfl rfl
  | @close _ _ r t _ hv => exact h.checkIn (q := p.timed r t) ho hv (hidle r rfl) rfl rfl rfl rfl
  | @detach _ _ r ha hv => exact h.checkIn (q := p.checkedIn r) ho hv (hidle r rfl) rfl rfl rfl rfl
  | @store _ _ r t e₁ hv hk =>
    have hgone : InStep ((p.timed r t).withHandle r (·.retire .invalid)) none :=
      h.checkIn (q := p.timed r t) ho hv (hidle r rfl) rfl rfl rfl rfl
    have hlen : ((p.timed r t).withHandle r (·.retire .invalid)).handles.length =
        p.handles.length := length_withHandle ..
    refine hgone.enter (fun s hs => ?_) rfl (fun s hs => ?_) rfl (fun _ _ hs => nomatch hs)
      fun s hs => ?_
    · rw [hlen]
      exact (ho.checkedIn hv (hidle r rfl)).lt (List.mem_cons_of_mem _ hs)
    · rw [hlen]
      exact (List.mem_append.1 hs).imp_right fun hs => ⟨List.mem_singleton.1 hs, rfl⟩
    · rw [hlen] at hs
      rcases hs with hs | rfl
      · exact mem_live_none.2 ((mem_live_none.1 hs).imp_right (List.mem_append_left _))
      · exact mem_live_of_idle (List.mem_append_right _ (List.mem_singleton_self _))
  | drain | change | shutDown => exact h.emptied rfl rfl rfl

end InStep

/-! ## Moves -/

section

variable {n : Nat} {raised : Bool} {g g₁ g' : Stage}

/-- A step of a turn leaves the state of a handle as it is, or makes a move after which the turn has
nothing more to do with the handle. -/
theorem Seek.ages (st : Seek n raised g g')
    (ho : Owned g.env g.pool (g.pool.live g.phase.hand)) (h : InStep g.pool g.phase.hand)
    (r : Ref) :
    g'.pool.stateOf r = g.pool.stateOf r ∨ g'.pool.stateOf r ∈ (g.pool.stateOf r).next ∧
      ((g'.pool.stateOf r).isTerminal = true ∨ ∃ turn, g'.phase = .ended turn) := by
  cases st with
  | rouse | stop | shut | takeIdle | refused | interrupted | timeOut | sleep => exact .inl rfl
  | @openNew e p a e' =>
    refine .inl ?_
    by_cases hr : r = p.handles.length
    · subst hr
      exact (stateOf_add_self _ _).trans (stateOf_of_length_le (Nat.le_refl _)).symm
    · exact stateOf_add_ne _ hr
  | @takeOver e p a s rest held e' hopen hi hf ha =>
    have hs : s ∈ p.active := ha ▸ List.mem_cons_self ..
    have hlt : s < p.handles.length := ho.lt (mem_live_of_active hs)
    by_cases hrs : r = s
    · subst hrs
      have hself : (p.takenOver r rest held e'.nextHandle).stateOf r = .reclaimed :=
        congrArg (·.data.state) (handle_passOn_self _ hlt _ _)
      refine .inr ?_
      rw [hself, h.active r hs]
      exact ⟨by decide, .inl rfl⟩
    · refine .inl ?_
      by_cases hr : r = p.handles.length
      · subst hr
        have hnew : (p.takenOver s rest held e'.nextHandle).stateOf p.handles.length = .created :=
          congrArg (·.data.state) (handle_passOn_new _ s _ _)
        rw [hnew, stateOf_of_length_le (Nat.le_refl _)]
      · exact congrArg (·.data.state) (handle_passOn_ne p _ _ hrs hr)
  | @handOut e p a s e' hv =>
    by_cases hrs : r = s
    · subst hrs
      refine .inr ⟨?_, .inr ⟨_, rfl⟩⟩
      change (p.handedOut a r e'.now).stateOf r ∈ _
      rw [stateOf_handedOut_self (lt_of_valid hv)]
      rcases h.hand a r rfl with hstate | hstate <;> rw [hstate] <;> decide
    · exact .inl (stateOf_withHandle_ne p _ hrs)
  | @reject e p a s | @giveUp e p a s =>
    by_cases hrs : r = s
    · subst hrs
      have hself : (p.rejected r).stateOf r = .invalid :=
        stateOf_retire_self (ho.lt (mem_live_some.2 (.inl rfl))) _
      refine .inr ?_
      rw [hself]
      rcases h.hand a r rfl with hstate | hstate <;> rw [hstate] <;> exact ⟨by decide, .inl rfl⟩
    · exact .inl (stateOf_withHandle_ne p _ hrs)

/-- In a turn a handle makes one move at most. -/
theorem Seeks.ages (hs : Seeks n raised g g')
    (ho : Owned g.env g.pool (g.pool.live g.phase.hand)) (h : InStep g.pool g.phase.hand)
    (r : Ref) :
    g'.pool.stateOf r = g.pool.stateOf r ∨ g'.pool.stateOf r ∈ (g.pool.stateOf r).next := by
  suffices hall : (Owned g'.env g'.pool (g'.pool.live g'.phase.hand) ∧
      InStep g'.pool g'.phase.hand) ∧
        (g'.pool.stateOf r = g.pool.stateOf r ∨ g'.pool.stateOf r ∈ (g.pool.stateOf r).next ∧
          ((g'.pool.stateOf r).isTerminal = true ∨ ∃ turn, g'.phase = .ended turn)) from
    hall.2.imp_right And.left
  induction hs with
  | refl => exact ⟨⟨ho, h⟩, .inl rfl⟩
  | @tail g₁ g₂ hs st ih =>
    obtain ⟨⟨ho₁, h₁⟩, hmove⟩ := ih
    refine ⟨⟨ho₁.seek st, h₁.seek st ho₁⟩, ?_⟩
    have hstep := st.ages ho₁ h₁ r
    rcases hmove with hsame | ⟨hmoved, hdone | ⟨turn, hended⟩⟩
    · rwa [hsame] at hstep
    · -- The handle is done, so it stays as it is.
      have hnone := HandleState.next_eq_nil_iff.2 hdone
      rw [hnone] at hstep
      rcases hstep with hstep | ⟨hmem, -⟩
      · rw [hstep]
        exact .inr ⟨hmoved, .inl hdone⟩
      · exact absurd hmem List.not_mem_nil
    · exact absurd hended (st.ne_ended turn)

end

/-- In an operation too a handle makes one move at most. -/
theorem Yield.ages {n : Nat} {who : Handback} {e e' : Env} {p p' : Pool} (y : Yield n who e p e' p')
    (ho : Owned e p (p.live none)) (hidle : ∀ r ∈ who.ref?, r ∉ p.idle) (h : InStep p none)
    (r : Ref) : p'.stateOf r = p.stateOf r ∨ p'.stateOf r ∈ (p.stateOf r).next := by
  -- A checkout ends, and its handle is retired.
  have hretire : ∀ {s : Ref} {q : Pool} {state : HandleState}, s ∈ who.ref? →
      (p.handle s).valid = true → q.handles = p.handles → state ∈ HandleState.active.next →
      (q.withHandle s (·.retire state)).stateOf r = p.stateOf r ∨
        (q.withHandle s (·.retire state)).stateOf r ∈ (p.stateOf r).next := by
    intro s q state hwho hv ht hstate
    by_cases hrs : r = s
    · subst hrs
      have hlt := lt_of_valid hv
      rw [stateOf_retire_self (ht ▸ hlt), h.active r (ho.mem_active hv (hidle r hwho))]
      exact .inr hstate
    · exact .inl ((stateOf_withHandle_ne q _ hrs).trans (stateOf_congr ht r))
  -- Every listed handle is retired.
  have hempty : ∀ {q : Pool}, q.handles = p.handles → q.active = p.active → q.idle = p.idle →
      q.emptied.stateOf r = p.stateOf r ∨ q.emptied.stateOf r ∈ (p.stateOf r).next := by
    intro q ht ha hi
    by_cases hin : r ∈ q.active ++ q.idle
    · have hlisted : r ∈ p.live none := by rwa [ha, hi] at hin
      have hself : q.emptied.stateOf r = .closed :=
        congrArg (·.data.state) (handle_emptied_of_mem hin (ht ▸ ho.lt hlisted))
      refine .inr ?_
      rw [hself]
      rcases mem_live_none.1 hlisted with hin | hin
      · rw [h.active r hin]
        decide
      · rw [h.idle r hin]
        decide
    · refine .inl ?_
      rw [stateOf, handle_emptied_of_notMem hin, handle_congr ht, stateOf]
  cases y with
  | spurn | letGo => exact .inl rfl
  | @discard _ _ s _ hv => exact hretire (q := p.spurned s) rfl hv rfl (by decide)
  | @close _ _ s t _ hv => exact hretire (q := p.timed s t) rfl hv rfl (by decide)
  | @detach _ _ s ha hv => exact hretire (q := p.checkedIn s) rfl hv rfl (by decide)
  | @store _ _ s t e₁ hv =>
    by_cases hr : r = p.handles.length
    · subst hr
      refine .inr ?_
      have hnew : (p.stored s t e₁.nextHandle).stateOf p.handles.length = .idle :=
        congrArg (·.data.state) (handle_passOn_new (p.timed s t) s _ _)
      rw [hnew, stateOf_of_length_le (Nat.le_refl _)]
      decide
    · have hold : (p.stored s t e₁.nextHandle).stateOf r =
          ((p.timed s t).withHandle s (·.retire .invalid)).stateOf r := by
        refine stateOf_add_ne _ ?_
        rw [length_withHandle]
        exact hr
      rw [hold]
      exact hretire (q := p.timed s t) rfl hv rfl (by decide)
  | drain => exact hempty rfl rfl rfl
  | @change _ _ c => exact hempty (q := p.changed c) rfl rfl rfl
  | shutDown => exact hempty (q := { p with closed := true }) rfl rfl rfl

/-! ## Numbers -/

namespace Pool

/-- The numbers of the handles of a pool, in the order in which the handles were made. -/
def ids (p : Pool) : List Nat := p.handles.map (·.data.id)

theorem ids_withHandle (p : Pool) (r : Ref) {f : Handle → Handle}
    (hf : ∀ h, (f h).data.id = h.data.id) : (p.withHandle r f).ids = p.ids :=
  map_withHandle (·.data.id) p r hf

theorem ids_add (p : Pool) (h : Handle) : (p.add h).ids = p.ids ++ [h.data.id] := by
  simp [ids, add]

theorem ids_passOn (p : Pool) (r : Ref) (state : HandleState) (data : Metadata) :
    (p.passOn r state data).ids = p.ids ++ [data.id] := by
  rw [passOn, ids_add, ids_withHandle p r (f := (·.retire state)) fun _ => rfl]

theorem ids_emptied (p : Pool) : p.emptied.ids = p.ids :=
  map_retireAll (·.data.id) _ _ fun _ => rfl

end Pool

/-- Between two moments the handles of a pool keep their numbers, and each new one gets the next
number. -/
def Issues (e : Env) (p : Pool) (e' : Env) (p' : Pool) : Prop :=
  ∃ k, e'.nextHandle = e.nextHandle + k ∧ p'.ids = p.ids ++ List.range' e.nextHandle k

namespace Issues

variable {e e₁ e' : Env} {p p₁ p' : Pool}

/-- No handle is made. -/
theorem none (he : e'.nextHandle = e.nextHandle) (hp : p'.ids = p.ids) : Issues e p e' p' :=
  ⟨0, he, by rw [hp, List.range'_zero, List.append_nil]⟩

/-- One handle is made. -/
theorem one (he : e'.nextHandle = e.nextHandle + 1) (hp : p'.ids = p.ids ++ [e.nextHandle]) :
    Issues e p e' p' := ⟨1, he, hp⟩

theorem trans (h₁ : Issues e p e₁ p₁) (h₂ : Issues e₁ p₁ e' p') : Issues e p e' p' := by
  obtain ⟨k₁, he₁, hp₁⟩ := h₁
  obtain ⟨k₂, he₂, hp₂⟩ := h₂
  refine ⟨k₁ + k₂, by rw [he₂, he₁, Nat.add_assoc], ?_⟩
  rw [hp₂, hp₁, he₁, List.append_assoc, List.range'_append_1]

theorem counter (h : Issues e p e' p') : e.nextHandle ≤ e'.nextHandle := by
  obtain ⟨k, he, -⟩ := h
  exact he ▸ Nat.le_add_right ..

end Issues

theorem Env.Opens.nextHandle {n conn : Nat} {target : Target} {outcome : Except Fault Unit}
    {e e' : Env} (h : e.Opens n conn target outcome e') : e'.nextHandle = e.nextHandle := by
  obtain ⟨took, notices, hl⟩ := h
  exact hl.nextHandle

theorem Seek.issues {n : Nat} {raised : Bool} {g g' : Stage} (st : Seek n raised g g') :
    Issues g.env g.pool g'.env g'.pool := by
  cases st with
  | rouse | stop | shut | takeIdle | interrupted | timeOut | sleep => exact .none rfl rfl
  | refused _ he => exact .none he.nextHandle rfl
  | @openNew e p a e' _ he =>
    refine .one (congrArg (· + 1) he.nextHandle) ?_
    rw [← he.nextHandle]
    exact ids_add _ _
  | @takeOver e p a r rest held e' _ _ _ _ _ _ he =>
    refine .one (congrArg (· + 1) he.nextHandle) ?_
    rw [← he.nextHandle]
    exact ids_passOn _ r _ _
  | handOut _ he => exact .none he.nextHandle (ids_withHandle _ _ fun _ => rfl)
  | reject _ he | giveUp _ he => exact .none he.nextHandle (ids_withHandle _ _ fun _ => rfl)

theorem Seeks.issues {n : Nat} {raised : Bool} {g g' : Stage} (hs : Seeks n raised g g') :
    Issues g.env g.pool g'.env g'.pool := by
  induction hs with
  | refl => exact .none rfl rfl
  | tail _ st ih => exact ih.trans st.issues

theorem Yield.issues {n : Nat} {who : Handback} {e e' : Env} {p p' : Pool}
    (y : Yield n who e p e' p') : Issues e p e' p' := by
  cases y with
  | spurn _ he => exact .none he.nextHandle rfl
  | letGo => exact .none rfl rfl
  | discard _ he | close _ _ he => exact .none he.nextHandle (ids_withHandle _ _ fun _ => rfl)
  | detach => exact .none rfl (ids_withHandle _ _ fun _ => rfl)
  | @store _ _ r t e₁ _ _ _ he =>
    refine .one (congrArg (· + 1) he.nextHandle) ?_
    rw [← he.nextHandle]
    exact ids_passOn (p.timed r t) r _ _
  | drain he | change _ he | shutDown _ he => exact .none he.nextHandle (ids_emptied _)

end ConnPool
