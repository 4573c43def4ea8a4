import ConnPool.Proofs.Pool.Yield
import Mathlib.Data.List.Perm.Basic

/-!
# Ownership

Handles come and go while a raw connection stays, and callers keep the handles that are long
retired. Yet each raw connection has at most one owner: `Owned` says that the valid handles are
those of a list without repetition, and that no two of them are around one connection. The list is
that of the pool, with the candidate that an acquire has in hand.

Each change of a pool retires a handle, passes its connection on to a new one, or opens a
connection. So there is one lemma for each of these, and `Owned.seek` and `Owned.yield` only have to
say which handle leaves the list and which one enters it.
-/

namespace ConnPool

open Pool

/-- The handles in the lists of a pool, and the candidate that an acquire has in hand. -/
def Pool.live (p : Pool) (hand : Option (Acquire × Ref)) : List Ref :=
  (hand.map (·.2)).toList ++ (p.active ++ p.idle)

@[simp] theorem Pool.mem_live_none {p : Pool} {r : Ref} :
    r ∈ p.live none ↔ r ∈ p.active ∨ r ∈ p.idle := by simp [live]

@[simp] theorem Pool.mem_live_some {p : Pool} {a : Acquire} {c r : Ref} :
    r ∈ p.live (some (a, c)) ↔ r = c ∨ r ∈ p.active ∨ r ∈ p.idle := by simp [live]

theorem Pool.mem_live_of_active {p : Pool} {hand : Option (Acquire × Ref)} {r : Ref}
    (hr : r ∈ p.active) : r ∈ p.live hand :=
  List.mem_append_right _ (List.mem_append_left _ hr)

theorem Pool.mem_live_of_idle {p : Pool} {hand : Option (Acquire × Ref)} {r : Ref}
    (hr : r ∈ p.idle) : r ∈ p.live hand :=
  List.mem_append_right _ (List.mem_append_right _ hr)

/-- The candidate that an acquire has in hand at some point of its turn. -/
def Phase.hand : Phase → Option (Acquire × Ref)
  | .judging a r => some (a, r)
  | _ => none

theorem Phase.Starts.hand {phase : Phase} (h : phase.Starts) : phase.hand = none := by
  cases phase with
  | judging => exact h.elim
  | woken | seeking | ended => rfl

/-- The handles of the list `live` own the connections of the pool. -/
structure Owned (e : Env) (p : Pool) (live : List Ref) : Prop where
  nodup : live.Nodup
  valid : ∀ r, (p.handle r).valid = true ↔ r ∈ live
  /-- No two of them own the same connection. -/
  inj : ∀ r ∈ live, ∀ s ∈ live, p.connOf r = p.connOf s → r = s
  conn_le : ∀ r < p.handles.length, p.connOf r ≤ p.attempts
  id_lt : ∀ r < p.handles.length, (p.handle r).raw.id < e.nextRaw
  /-- A raw connection is known by its number and by its name at the backend. -/
  raw_eq : ∀ r < p.handles.length, ∀ s < p.handles.length,
    (p.handle r).raw.id = (p.handle s).raw.id ∨ p.connOf r = p.connOf s →
      (p.handle r).raw = (p.handle s).raw

namespace Owned

variable {e e' : Env} {p p' : Pool} {live live' : List Ref} {r : Ref}

theorem lt (h : Owned e p live) (hr : r ∈ live) : r < p.handles.length :=
  lt_of_valid ((h.valid r).2 hr)

theorem nodup_active {hand : Option (Acquire × Ref)} (h : Owned e p (p.live hand)) :
    p.active.Nodup :=
  (List.nodup_append.1 (List.nodup_append.1 h.nodup).2.1).1

theorem notMem_idle {hand : Option (Acquire × Ref)} (h : Owned e p (p.live hand))
    (hr : r ∈ p.active) : r ∉ p.idle := fun hidle =>
  (List.nodup_append.1 (List.nodup_append.1 h.nodup).2.1).2.2 r hr r hidle rfl

theorem hand_notMem {a : Acquire} (h : Owned e p (p.live (some (a, r)))) :
    r ∉ p.active ++ p.idle :=
  (List.nodup_cons.1 h.nodup).1

theorem empty (e : Env) (settings : Settings) (target : Target) :
    Owned e (.empty settings target) [] where
  nodup := .nil
  valid r :=
    ⟨fun h => absurd (lt_of_valid h) (Nat.not_lt_zero r), fun h => absurd h List.not_mem_nil⟩
  inj _ hr := absurd hr List.not_mem_nil
  conn_le r hr := absurd hr (Nat.not_lt_zero r)
  id_lt r hr := absurd hr (Nat.not_lt_zero r)
  raw_eq r hr := absurd hr (Nat.not_lt_zero r)

/-! ## Changes that concern no handle -/

theorem perm (h : Owned e p live) (hl : live.Perm live') : Owned e p live' where
  nodup := hl.nodup h.nodup
  valid r := (h.valid r).trans hl.mem_iff
  inj r hr s hs := h.inj r (hl.mem_iff.2 hr) s (hl.mem_iff.2 hs)
  conn_le := h.conn_le
  id_lt := h.id_lt
  raw_eq := h.raw_eq

theorem later (h : Owned e p live) (he : e.nextRaw ≤ e'.nextRaw) : Owned e' p live :=
  { h with id_lt := fun r hr => Nat.lt_of_lt_of_le (h.id_lt r hr) he }

/-- The same owners in a pool whose table has the same raw connections and valid handles. -/
theorem congr (h : Owned e p live) (hlen : p'.handles.length = p.handles.length)
    (hraw : ∀ r, (p'.handle r).raw = (p.handle r).raw)
    (hvalid : ∀ r, (p'.handle r).valid = (p.handle r).valid) (ha : p.attempts ≤ p'.attempts) :
    Owned e p' live where
  nodup := h.nodup
  valid r := by rw [hvalid]; exact h.valid r
  inj r hr s hs := by simp only [connOf, hraw]; exact h.inj r hr s hs
  conn_le r hr := by
    simp only [connOf, hraw]
    exact Nat.le_trans (h.conn_le r (hlen ▸ hr)) ha
  id_lt r hr := by rw [hraw]; exact h.id_lt r (hlen ▸ hr)
  raw_eq r hr s hs := by simp only [connOf, hraw]; exact h.raw_eq r (hlen ▸ hr) s (hlen ▸ hs)

/-- The same owners in a pool with the same table. -/
theorem same (h : Owned e p live) (he : e.nextRaw ≤ e'.nextRaw) (ht : p'.handles = p.handles)
    (ha : p.attempts ≤ p'.attempts) : Owned e' p' live :=
  (h.later he).congr (by rw [ht]) (fun r => by rw [handle_congr ht])
    (fun r => by rw [handle_congr ht]) ha

/-! ## Changes that concern one handle -/

/-- A handle that is retired is an owner no more. -/
theorem retire (h : Owned e p (r :: live)) (state : HandleState) :
    Owned e (p.withHandle r (·.retire state)) live := by
  have hnot := (List.nodup_cons.1 h.nodup).1
  constructor
  case nodup => exact (List.nodup_cons.1 h.nodup).2
  case valid =>
    intro s
    rw [valid_retire, h.valid, List.mem_cons]
    constructor
    · rintro ⟨hs | hs, hne⟩
      · exact absurd hs hne
      · exact hs
    · intro hs
      exact ⟨.inr hs, fun heq => hnot (heq ▸ hs)⟩
  case inj =>
    intro s hs t ht
    simp only [connOf, raw_retire]
    exact h.inj s (List.mem_cons_of_mem _ hs) t (List.mem_cons_of_mem _ ht)
  all_goals simp only [length_withHandle, connOf, raw_retire]
  case conn_le => exact h.conn_le
  case id_lt => exact h.id_lt
  case raw_eq => exact h.raw_eq

/-- A new handle is an owner if it is around a connection that no other one owns. -/
theorem add {x : Handle} (h : Owned e p live) (hv : x.valid = true)
    (hnew : ∀ s ∈ live, p.connOf s ≠ x.raw.conn) (hc : x.raw.conn ≤ p.attempts)
    (hid : x.raw.id < e.nextRaw)
    (hraw : ∀ s < p.handles.length, (p.handle s).raw.id = x.raw.id ∨ p.connOf s = x.raw.conn →
      (p.handle s).raw = x.raw) :
    Owned e (p.add x) (p.handles.length :: live) := by
  have hne : ∀ s, s < p.handles.length → s ≠ p.handles.length := fun s => Nat.ne_of_lt
  have hold : ∀ s < p.handles.length, (p.add x).handle s = p.handle s := fun s hs =>
    handle_add_ne p x (hne s hs)
  have hcases : ∀ s < (p.add x).handles.length, s = p.handles.length ∨ s < p.handles.length := by
    intro s hs
    rw [length_add] at hs
    exact (Nat.lt_succ_iff_lt_or_eq.1 hs).symm
  constructor
  case nodup => exact List.nodup_cons.2 ⟨fun hmem => hne _ (h.lt hmem) rfl, h.nodup⟩
  case valid =>
    intro s
    by_cases hs : s = p.handles.length
    · subst hs
      simp [handle_add_self, hv]
    · rw [handle_add_ne p x hs, h.valid, List.mem_cons]
      exact ⟨.inr, fun hmem => hmem.resolve_left hs⟩
  case inj =>
    intro s hs t ht heq
    rcases List.mem_cons.1 hs with rfl | hs <;> rcases List.mem_cons.1 ht with rfl | ht
    · rfl
    · rw [connOf, connOf, handle_add_self, hold t (h.lt ht)] at heq
      exact absurd heq.symm (hnew t ht)
    · rw [connOf, connOf, handle_add_self, hold s (h.lt hs)] at heq
      exact absurd heq (hnew s hs)
    · rw [connOf, connOf, hold s (h.lt hs), hold t (h.lt ht)] at heq
      exact h.inj s hs t ht heq
  case conn_le =>
    intro s hs
    rcases hcases s hs with rfl | hs
    · rw [connOf, handle_add_self]
      exact hc
    · rw [connOf, hold s hs]
      exact h.conn_le s hs
  case id_lt =>
    intro s hs
    rcases hcases s hs with rfl | hs
    · rw [handle_add_self]
      exact hid
    · rw [hold s hs]
      exact h.id_lt s hs
  case raw_eq =>
    intro s hs t ht heq
    simp only [connOf] at heq
    rcases hcases s hs with rfl | hs <;> rcases hcases t ht with rfl | ht
    · rfl
    · rw [handle_add_self, hold t ht] at heq ⊢
      exact (hraw t ht (heq.imp Eq.symm Eq.symm)).symm
    · rw [handle_add_self, hold s hs] at heq ⊢
      exact hraw s hs heq
    · rw [hold s hs, hold t ht] at heq ⊢
      exact h.raw_eq s hs t ht heq

/-- A connection that passes on to a new handle has the new handle for its owner. -/
theorem passOn (h : Owned e p (r :: live)) (state : HandleState) (data : Metadata) :
    Owned e (p.passOn r state data) (p.handles.length :: live) := by
  have hr := h.lt (List.mem_cons_self ..)
  have hnot := (List.nodup_cons.1 h.nodup).1
  rw [← length_withHandle p r (·.retire state)]
  refine (h.retire state).add rfl ?_ (h.conn_le r hr) (h.id_lt r hr) ?_
  · intro s hs heq
    rw [connOf_withHandle_retire] at heq
    have hsr := h.inj s (List.mem_cons_of_mem _ hs) r (List.mem_cons_self ..) heq
    exact hnot (hsr ▸ hs)
  · intro s hs
    rw [length_withHandle] at hs
    simp only [connOf, raw_retire]
    exact h.raw_eq s hs r hr

/-- A connection that is opened is owned by its first handle. -/
theorem opened (h : Owned e p live) (login : Option (String × String)) :
    Owned e.wrapped (p.opened e login) (p.handles.length :: live) := by
  have hmore : Owned e.wrapped { p with attempts := p.attempts + 1 } live :=
    h.same (Nat.le_succ _) rfl (Nat.le_succ _)
  refine hmore.add rfl ?_ (Nat.le_refl _) (Nat.lt_succ_self _) ?_
  · intro s hs
    exact Nat.ne_of_lt (Nat.lt_succ_of_le (h.conn_le s (h.lt hs)))
  · intro s hs heq
    rcases heq with heq | heq
    · exact absurd heq (Nat.ne_of_lt (h.id_lt s hs))
    · exact absurd heq (Nat.ne_of_lt (Nat.lt_succ_of_le (h.conn_le s hs)))

/-! ## Changes that concern every handle -/

theorem emptied (h : Owned e p (p.active ++ p.idle)) : Owned e p.emptied [] := by
  constructor
  case nodup => exact .nil
  case valid =>
    intro r
    rw [valid_emptied, h.valid]
    exact ⟨fun hr => absurd hr.1 hr.2, fun hr => absurd hr List.not_mem_nil⟩
  case inj => simp
  all_goals simp only [connOf, length_emptied, raw_emptied, attempts_emptied]
  case conn_le => exact h.conn_le
  case id_lt => exact h.id_lt
  case raw_eq => exact h.raw_eq

/-! ## Turns and operations -/

theorem seek {n : Nat} {raised : Bool} {g g' : Stage} (st : Seek n raised g g')
    (h : Owned g.env g.pool (g.pool.live g.phase.hand)) :
    Owned g'.env g'.pool (g'.pool.live g'.phase.hand) := by
  cases st with
  | rouse | stop | shut | interrupted | timeOut | sleep =>
    exact h.same (Nat.le_refl _) rfl (Nat.le_refl _)
  | @takeIdle e p a r rest ho hi =>
    have hperm : (p.live none).Perm (r :: (p.active ++ rest)) := by
      rw [live, hi]
      exact List.perm_middle
    exact (h.perm hperm).same (Nat.le_refl _) rfl (Nat.le_refl _)
  | refused hroom he => exact h.same (Nat.le_of_eq he.nextRaw.symm) rfl (Nat.le_succ _)
  | @openNew e p a e' hroom he =>
    have hlater : Owned e' p (p.live none) := h.later (Nat.le_of_eq he.nextRaw.symm)
    exact (hlater.opened a.login).later (Nat.le_refl _)
  | @takeOver e p a r rest held e' ho hi hf ha hh ht he =>
    have hlive : p.live none = r :: (rest ++ p.idle) := by rw [live, ha]; rfl
    have hlater : Owned e' p (r :: (rest ++ p.idle)) :=
      hlive ▸ h.later (Nat.le_of_eq he.nextRaw.symm)
    have hpass := hlater.passOn .reclaimed ((p.handle r).data.renew e'.nextHandle)
    exact hpass.same (Nat.le_refl _) rfl (Nat.le_refl _)
  | @handOut e p a r e' hv he =>
    have hperm : (p.live (some (a, r))).Perm ((p.handedOut a r e'.now).live none) := by
      change (r :: (p.active ++ p.idle)).Perm (p.active ++ [r] ++ p.idle)
      rw [List.append_assoc]
      exact List.perm_middle.symm
    exact ((h.later (Nat.le_of_eq he.nextRaw.symm)).perm hperm).congr (length_withHandle ..)
      (fun s => part_withHandle Handle.raw p r s fun _ => rfl)
      (fun s => part_withHandle Handle.valid p r s fun _ => rfl) (Nat.le_refl _)
  | reject hb he | giveUp hb he =>
    exact ((h.retire .invalid).same (Nat.le_of_eq he.nextRaw.symm) rfl (Nat.le_refl _))

/-- A valid handle that is not idle is checked out. -/
theorem mem_active (h : Owned e p (p.live none)) (hv : (p.handle r).valid = true)
    (hidle : r ∉ p.idle) : r ∈ p.active :=
  (List.mem_append.1 (show r ∈ p.active ++ p.idle from (h.valid r).1 hv)).resolve_right hidle

/-- Such a handle alone leaves the list when it is given back. -/
theorem checkedIn (h : Owned e p (p.live none)) (hv : (p.handle r).valid = true)
    (hidle : r ∉ p.idle) : Owned e p (r :: (p.checkedIn r).live none) :=
  h.perm ((List.perm_cons_erase (h.mem_active hv hidle)).append_right p.idle)

/-- To give a retired handle back takes nothing off the checkouts. -/
theorem erase_retired (h : Owned e p (p.live none))
    (hv : ¬(r ∈ p.active ∧ (p.handle r).valid = true)) : p.active.erase r = p.active :=
  List.erase_of_not_mem fun ha => hv ⟨ha, (h.valid r).2 (mem_live_of_active ha)⟩

/-- So it takes nothing out of the lists. -/
theorem live_checkedIn (h : Owned e p (p.live none))
    (hv : ¬(r ∈ p.active ∧ (p.handle r).valid = true)) :
    (p.checkedIn r).live none = p.live none := by
  simp [live, Pool.checkedIn, h.erase_retired hv]

theorem yield {n : Nat} {who : Handback} (y : Yield n who e p e' p') (h : Owned e p (p.live none))
    (hidle : ∀ r ∈ who.ref?, r ∉ p.idle) : Owned e' p' (p'.live none) := by
  have hempty : ∀ q : Pool, e'.nextRaw = e.nextRaw → Owned e q (q.live none) →
      Owned e' q.emptied (q.emptied.live none) := by
    intro q he hq
    have hlive : q.emptied.live none = [] := by simp [live]
    rw [hlive]
    exact hq.emptied.later (Nat.le_of_eq he.symm)
  cases y with
  | @spurn _ _ r _ hv he =>
    have hlive : (p.spurned r).live none = p.live none := h.live_checkedIn (by simp [hv])
    rw [hlive]
    exact h.same (Nat.le_of_eq he.nextRaw.symm) rfl (Nat.le_refl _)
  | @letGo _ _ r hn =>
    rw [h.live_checkedIn hn]
    exact h.same (Nat.le_refl _) rfl (Nat.le_refl _)
  | @discard _ _ r _ hv he =>
    exact ((h.checkedIn hv (hidle r rfl)).retire .invalid).same (Nat.le_of_eq he.nextRaw.symm) rfl
      (Nat.le_refl _)
  | @close _ _ r _ _ hv ht he =>
    exact ((h.checkedIn hv (hidle r rfl)).retire .closed).same (Nat.le_of_eq he.nextRaw.symm) rfl
      (Nat.le_refl _)
  | @detach _ _ r ha hv =>
    exact ((h.checkedIn hv (hidle r rfl)).retire .invalid).same (Nat.le_refl _) rfl (Nat.le_refl _)
  | @store _ _ r t e₁ hv hk ht he =>
    have hpass := (h.checkedIn hv (hidle r rfl)).passOn .invalid
      ((p.handle r).data.renew e₁.nextHandle).rest
    have hperm : (p.handles.length :: (p.active.erase r ++ p.idle)).Perm
        (p.active.erase r ++ (p.idle ++ [p.handles.length])) := by
      rw [← List.append_assoc]
      exact (List.perm_append_singleton ..).symm
    exact (hpass.perm hperm).same (Nat.le_of_eq he.nextRaw.symm) rfl (Nat.le_refl _)
  | drain he => exact hempty p he.nextRaw h
  | @change _ _ c _ hc he =>
    exact hempty (p.changed c) he.nextRaw (h.same (Nat.le_refl _) rfl (Nat.le_refl _))
  | shutDown ho he =>
    exact hempty { p with closed := true } he.nextRaw
      (h.same (Nat.le_refl _) rfl (Nat.le_refl _))

end Owned

/-! ## Handles in callers' hands -/

/-- The handles that callers were given are kept out of the idle list and out of the hand of an
acquire, and a handle that a turn ends with is not one of them. -/
structure Spares (given : Ref → Prop) (g : Stage) : Prop where
  lt : ∀ r, given r → r < g.pool.handles.length
  idle : ∀ r, given r → r ∉ g.pool.idle
  hand : ∀ a r, g.phase.hand = some (a, r) → ¬given r
  handed : ∀ a r, g.phase = .ended (.done a (.ok r)) → r ∈ g.pool.active ∧ ¬given r

namespace Spares

variable {given : Ref → Prop}

theorem seek {n : Nat} {raised : Bool} {g g' : Stage} (st : Seek n raised g g')
    (h : Spares given g) : Spares given g' := by
  cases st with
  | rouse | stop | shut | refused | interrupted | timeOut | sleep =>
    exact ⟨h.lt, h.idle, nofun, fun _ _ hs => by cases hs⟩
  | takeIdle ho hi =>
    have hidle : ∀ s, given s → s ∉ _ :: _ := fun s hs => hi ▸ h.idle s hs
    refine ⟨h.lt, fun s hs hmem => ?_, fun b s hs hgiven => ?_, nofun⟩
    · exact hidle s hs (List.mem_cons_of_mem _ hmem)
    · cases hs
      exact hidle _ hgiven (List.mem_cons_self ..)
  | @openNew e p a | @takeOver e p a =>
    refine ⟨fun s hs => ?_, h.idle, fun b s hs hgiven => ?_, nofun⟩
    · refine Nat.lt_of_lt_of_eq (Nat.lt_succ_of_lt (h.lt s hs)) (Eq.symm ?_)
      first | exact length_add .. | exact length_passOn ..
    · cases hs
      exact absurd (h.lt _ hgiven) (Nat.lt_irrefl _)
  | @handOut e p a r =>
    refine ⟨fun s hs => (length_withHandle ..).symm ▸ h.lt s hs, h.idle, nofun, fun b s hs => ?_⟩
    cases hs
    exact ⟨List.mem_append_right _ (List.mem_singleton_self _), h.hand a r rfl⟩
  | reject | giveUp =>
    exact ⟨fun s hs => (length_withHandle ..).symm ▸ h.lt s hs, h.idle, nofun,
      fun _ _ hs => by cases hs⟩

end Spares

/-- What callers were given is neither idle after an operation. -/
theorem Yield.spares {n : Nat} {who : Handback} {e e' : Env} {p p' : Pool} {r : Ref}
    (y : Yield n who e p e' p') (hr : r < p.handles.length) (hidle : r ∉ p.idle) :
    r < p'.handles.length ∧ r ∉ p'.idle := by
  cases y with
  | spurn | letGo => exact ⟨hr, hidle⟩
  | discard | close | detach => exact ⟨(length_withHandle ..).symm ▸ hr, hidle⟩
  | store =>
    refine ⟨Nat.lt_of_lt_of_eq (Nat.lt_succ_of_lt hr) (length_passOn ..).symm, fun hmem => ?_⟩
    rcases List.mem_append.1 hmem with hmem | hmem
    · exact hidle hmem
    · exact absurd (List.mem_singleton.1 hmem) (Nat.ne_of_lt hr)
  | drain | change | shutDown => exact ⟨(length_emptied _).symm ▸ hr, by simp⟩

end ConnPool
