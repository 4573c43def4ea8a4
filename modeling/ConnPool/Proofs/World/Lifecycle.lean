import ConnPool.Backend.Scripted
import ConnPool.Proofs.Pool.Lifecycle
import ConnPool.Proofs.World.Deals
import ConnPool.Proofs.World.Happens
import ConnPool.Proofs.World.Invariant

/-!
# Handles from first to last

Callers keep handles for as long as they like and return them in any order, and a pool keeps all
handles that it ever made in its table. So a handle can be asked for its state long after its
connection went to another one. A critical section is a turn of an acquire, or an operation, or it
leaves the tables alone; in each case a handle makes one move at most.

* `Section.counter`: the counter of handle numbers, which all pools share, never goes back.
* `Reachable.distinct`: so no two handles have the same number.

**Theorem (`handles_move_forward`).** In every reachable world the states agree with the lists, and
from there on each handle makes only the moves of `HandleState.next`.
-/

namespace ConnPool

open Pool

namespace World

variable {S : Type}

/-- The handle at a place in the table of pool `n`. -/
def handle? (w : World S) (n : Nat) (r : Ref) : Option Handle :=
  w.pools[n]?.bind fun p => p.handles[r]?

theorem handle?_eq_some {w : World S} {n : Nat} {r : Ref} {h : Handle} :
    w.handle? n r = some h ↔
      ∃ p, w.pools[n]? = some p ∧ r < p.handles.length ∧ p.handle r = h := by
  simp only [handle?, Option.bind_eq_some_iff, List.getElem?_eq_some_iff]
  refine exists_congr fun p => and_congr_right fun _ => ⟨fun ⟨hr, hh⟩ => ?_, fun ⟨hr, hh⟩ => ?_⟩
  · exact ⟨hr, (handle_eq_getElem hr).trans hh⟩
  · exact ⟨hr, (handle_eq_getElem hr).symm.trans hh⟩

/-! ## The counter of handle numbers -/

/-- The counter of handle numbers never goes back. -/
theorem Section.counter [Bench S] {w w' : World S} (hw : Reachable w) (hs : Section w w') :
    w.env.nextHandle ≤ w'.env.nextHandle := by
  cases hs.happens hw with
  | aside h => exact Nat.le_of_eq h.nextHandle.symm
  | signal _ he => rw [he]
  | talk _ hchats hw' =>
    rw [hw']
    exact Nat.le_of_eq hchats.env.nextHandle.symm
  | yield _ hy hw' =>
    rw [hw']
    exact hy.issues.counter
  | @turn _ _ _ _ _ turn _ _ _ _ _ hseeks _ hw' =>
    rw [hw']
    cases turn <;> exact hseeks.issues.counter

/-! ## Numbers of handles -/

/-- No two handles of a world have the same number, and none has the next number. -/
structure Distinct (w : World S) : Prop where
  lt : ∀ (n : Nat) (p : Pool), w.pools[n]? = some p → ∀ id ∈ p.ids, id < w.env.nextHandle
  nodup : ∀ (n : Nat) (p : Pool), w.pools[n]? = some p → p.ids.Nodup
  apart : ∀ (m n : Nat) (p q : Pool), m ≠ n → w.pools[m]? = some p → w.pools[n]? = some q →
    p.ids.Disjoint q.ids

namespace Distinct

variable {w w' : World S}

/-- No handle is made. -/
theorem later (h : Distinct w) (he : w.env.nextHandle ≤ w'.env.nextHandle)
    (hp : ∀ (n : Nat) (p : Pool), w'.pools[n]? = some p → w.pools[n]? = some p ∨ p.ids = []) :
    Distinct w' := by
  constructor
  case lt =>
    intro n p hn id hid
    rcases hp n p hn with hold | hnil
    · exact Nat.lt_of_lt_of_le (h.lt n p hold id hid) he
    · exact absurd (hnil ▸ hid) List.not_mem_nil
  case nodup =>
    intro n p hn
    rcases hp n p hn with hold | hnil
    · exact h.nodup n p hold
    · exact hnil ▸ .nil
  case apart =>
    intro m n p q hne hm hn id hid hid'
    rcases hp m p hm with hm | hnil
    · rcases hp n q hn with hn | hnil
      · exact h.apart m n p q hne hm hn hid hid'
      · exact absurd (hnil ▸ hid') List.not_mem_nil
    · exact absurd (hnil ▸ hid) List.not_mem_nil

/-- One pool makes handles. -/
theorem issue {n : Nat} {p p' : Pool} (h : Distinct w) (hn : w.pools[n]? = some p)
    (hp : w'.pools = w.pools.set n p') (hi : Issues w.env p w'.env p') : Distinct w' := by
  have hcounter := hi.counter
  obtain ⟨k, he, hids⟩ := hi
  -- The numbers that are new are not below the counter as it was.
  have hnew : ∀ id ∈ p'.ids, id ∈ p.ids ∨ w.env.nextHandle ≤ id ∧ id < w'.env.nextHandle := by
    intro id hid
    rw [hids, List.mem_append, List.mem_range'_1] at hid
    rw [he]
    exact hid
  constructor
  case lt =>
    intro m q hm id hid
    rcases pools_cases hn hp hm with ⟨rfl, rfl⟩ | hold
    · rcases hnew id hid with hid | hid
      · exact Nat.lt_of_lt_of_le (h.lt m p hn id hid) hcounter
      · exact hid.2
    · exact Nat.lt_of_lt_of_le (h.lt m q hold id hid) hcounter
  case nodup =>
    intro m q hm
    rcases pools_cases hn hp hm with ⟨rfl, rfl⟩ | hold
    · rw [hids]
      refine List.nodup_append.2 ⟨h.nodup m p hn, List.nodup_range', fun a ha b hb heq => ?_⟩
      exact Nat.not_le_of_lt (h.lt m p hn a ha) (heq ▸ (List.mem_range'_1.1 hb).1)
    · exact h.nodup m q hold
  case apart =>
    have hself : ∀ m q, m ≠ n → w.pools[m]? = some q → p'.ids.Disjoint q.ids := by
      intro m q hne hm id hid hid'
      rcases hnew id hid with hid | hid
      · exact h.apart n m p q hne.symm hn hm hid hid'
      · exact Nat.not_le_of_lt (h.lt m q hm id hid') hid.1
    intro m l q q' hne hm hl
    by_cases hmn : m = n
    · subst hmn
      cases (pools_set_self hn hp).symm.trans hm
      exact hself l q' hne.symm ((pools_set_ne hp hne.symm).symm.trans hl)
    · have hm' := (pools_set_ne hp hmn).symm.trans hm
      by_cases hln : l = n
      · subst hln
        cases (pools_set_self hn hp).symm.trans hl
        exact (hself m q hmn hm').symm
      · exact h.apart m l q q' hne hm' ((pools_set_ne hp hln).symm.trans hl)

/-- A handle is known by its number. -/
theorem eq_of_id (h : Distinct w) {m n : Nat} {r s : Ref} {x y : Handle}
    (hx : w.handle? m r = some x) (hy : w.handle? n s = some y) (hid : x.data.id = y.data.id) :
    m = n ∧ r = s := by
  obtain ⟨p, hm, hr, rfl⟩ := handle?_eq_some.1 hx
  obtain ⟨q, hn, hs, rfl⟩ := handle?_eq_some.1 hy
  have hget : ∀ {p : Pool} {r : Ref}, r < p.handles.length →
      p.ids[r]? = some (p.handle r).data.id := by
    intro p r hr
    rw [ids, List.getElem?_map, List.getElem?_eq_getElem hr, handle_eq_getElem hr]
    rfl
  have hmn : m = n := by
    by_contra hne
    refine h.apart m n p q hne hm hn (List.mem_of_getElem? (hget hr)) ?_
    rw [hid]
    exact List.mem_of_getElem? (hget hs)
  subst hmn
  cases Option.some.inj (hm.symm.trans hn)
  have hlt : r < p.ids.length := by simpa [ids] using hr
  refine ⟨rfl, (List.getElem?_inj hlt (h.nodup m p hm)).1 ?_⟩
  rw [hget hr, hget hs, hid]

end Distinct

variable [Bench S] {w w' : World S} {n : Nat}

theorem Reachable.distinct (hw : Reachable w) : Distinct w := by
  induction hw with
  | refl => exact ⟨by simp [pools], by simp [pools], by simp [pools]⟩
  | @tail w w' hw hs ih =>
    have hcounter := hs.counter hw
    cases hs.shift with
    | aside _ hp => exact ih.later hcounter fun n p hn => .inl (hp ▸ hn)
    | create _ _ _ _ hp =>
      refine ih.later hcounter fun n p hn => ?_
      rcases pools_append_cases hp hn with rfl | hold
      · exact .inr rfl
      · exact .inl hold
    | turn _ hn hp _ hseeks => exact ih.issue hn hp hseeks.issues
    | yield _ hn hp _ hy => exact ih.issue hn hp hy.issues

/-! ## One critical section -/

theorem inStep_invariant : PoolInvariant fun _ _ p hand => InStep p hand where
  empty _ := .empty _ _
  later _ h := h
  seek st ho h := h.seek st ho
  yield y ho hidle h := h.yield y ho hidle

/-- Each handle of a pool makes one move at most, and keeps its number. -/
structure Ages (p p' : Pool) : Prop where
  moves : ∀ r, p'.stateOf r = p.stateOf r ∨ p'.stateOf r ∈ (p.stateOf r).next
  ids : p.ids <+: p'.ids

theorem Ages.refl (p : Pool) : Ages p p := ⟨fun _ => .inl rfl, List.prefix_refl _⟩

theorem Section.ages (hs : Section w w') (hw : Reachable w) {p : Pool}
    (hn : w.pools[n]? = some p) : ∃ p', w'.pools[n]? = some p' ∧ Ages p p' := by
  have hids : ∀ {e e' : Env} {p p' : Pool}, Issues e p e' p' → p.ids <+: p'.ids := by
    rintro e e' p p' ⟨k, -, hids⟩
    exact ⟨_, hids.symm⟩
  have hinstep := hw.pool inStep_invariant hn
  cases hs.shift with
  | aside _ hp => exact ⟨p, hp ▸ hn, .refl p⟩
  | create _ _ _ _ hp => exact ⟨p, pools_append_of_some hp hn, .refl p⟩
  | @turn m _ q q' phase _ _ hm hp hphase hseeks =>
    by_cases hmn : n = m
    · subst hmn
      obtain rfl : p = q := Option.some.inj (hn.symm.trans hm)
      have ho : Owned w.env p (p.live phase.hand) := hphase.hand ▸ hw.owners.owned n p hn
      exact ⟨q', pools_set_self hm hp, hseeks.ages ho (hphase.hand.symm ▸ hinstep),
        hids hseeks.issues⟩
    · exact ⟨p, pools_set_of_ne hp hmn hn, .refl p⟩
  | @yield m who q q' _ hm hp hgave hy =>
    by_cases hmn : n = m
    · subst hmn
      obtain rfl : p = q := Option.some.inj (hn.symm.trans hm)
      have hidle : ∀ r ∈ who.ref?, r ∉ p.idle := fun r hr =>
        (hgave r hr).elim fun t ht => (hw.owners.lt_and_notMem_idle hn ht).2
      exact ⟨q', pools_set_self hm hp, hy.ages (hw.owners.owned n p hn) hidle hinstep,
        hids hy.issues⟩
    · exact ⟨p, pools_set_of_ne hp hmn hn, .refl p⟩

/-- A handle that is there stays there. It makes one move at most, and keeps its number. -/
theorem Section.handle (hs : Section w w') (hw : Reachable w) {r : Ref} {h : Handle}
    (hh : w.handle? n r = some h) :
    ∃ h', w'.handle? n r = some h' ∧ h'.data.id = h.data.id ∧
      (h'.data.state = h.data.state ∨ h'.data.state ∈ h.data.state.next) := by
  obtain ⟨p, hn, hr, rfl⟩ := handle?_eq_some.1 hh
  obtain ⟨p', hn', hages⟩ := hs.ages hw hn
  have hlt : r < p'.handles.length := by
    have hlen := hages.ids.length_le
    simp only [ids, List.length_map] at hlen
    exact Nat.lt_of_lt_of_le hr hlen
  refine ⟨p'.handle r, handle?_eq_some.2 ⟨p', hn', hlt, rfl⟩, ?_, hages.moves r⟩
  have hget := hages.ids.getElem (i := r) (by simpa [ids] using hr)
  simp only [ids, List.getElem_map] at hget
  rw [handle_eq_getElem hr, handle_eq_getElem hlt, hget]

/-! ## Whole runs -/

theorem Sections.handle {w w' : World S} (hw : Reachable w) (hs : Sections w w') {r : Ref}
    {h : Handle} (hh : w.handle? n r = some h) :
    ∃ h', w'.handle? n r = some h' ∧ h'.data.id = h.data.id ∧
      (h.data.state.isTerminal = true → h'.data.state = h.data.state) := by
  induction hs with
  | refl => exact ⟨h, hh, rfl, fun _ => rfl⟩
  | @tail w₁ w₂ hs st ih =>
    obtain ⟨h₁, hh₁, hid₁, hdone₁⟩ := ih
    obtain ⟨h₂, hh₂, hid₂, hmove⟩ := st.handle (hw.trans hs) hh₁
    refine ⟨h₂, hh₂, hid₂.trans hid₁, fun hdone => ?_⟩
    -- There is no move from the state that it is in.
    rw [hdone₁ hdone, HandleState.next_eq_nil_iff.2 hdone] at hmove
    exact hmove.resolve_right List.not_mem_nil

/-- The state of a handle agrees with the lists of its pool. -/
theorem Reachable.listed (hw : Reachable w) {p : Pool} {r : Ref} (hn : w.pools[n]? = some p)
    (hr : r < p.handles.length) :
    (p.stateOf r = .idle ↔ r ∈ p.idle) ∧ (p.stateOf r = .active ↔ r ∈ p.active) ∧
      (r ∉ p.idle → r ∉ p.active →
        (p.stateOf r).isTerminal = true ∧ (p.handle r).valid = false) := by
  have h := hw.pool inStep_invariant hn
  have ho := hw.owners.owned n p hn
  have hdone : r ∉ p.idle → r ∉ p.active → r ∉ p.live none := fun hi ha hin =>
    (mem_live_none.1 hin).elim ha hi
  refine ⟨⟨fun hstate => by_contra fun hi => ?_, h.idle r⟩,
    ⟨fun hstate => by_contra fun ha => ?_, h.active r⟩, fun hi ha => ⟨?_, ?_⟩⟩
  · by_cases ha : r ∈ p.active
    · exact nomatch hstate.symm.trans (h.active r ha)
    · have hterminal := h.done r hr (hdone hi ha)
      rw [hstate] at hterminal
      exact nomatch hterminal
  · by_cases hi : r ∈ p.idle
    · exact nomatch hstate.symm.trans (h.idle r hi)
    · have hterminal := h.done r hr (hdone hi ha)
      rw [hstate] at hterminal
      exact nomatch hterminal
  · exact h.done r hr (hdone hi ha)
  · exact Bool.eq_false_iff.2 fun hv => hdone hi ha ((ho.valid r).1 hv)

/-- A handle that is made in a critical section has made a move by the end of it. -/
theorem Section.made (hs : Section w w') (hw : Reachable w) {r : Ref} {h : Handle}
    (hnone : w.handle? n r = none) (hh : w'.handle? n r = some h) :
    h.data.state ∈ HandleState.created.next := by
  have hw' : Reachable w' := hw.tail hs
  obtain ⟨p', hn', hr, rfl⟩ := handle?_eq_some.1 hh
  cases hn : w.pools[n]? with
  | none =>
    obtain ⟨-, settings, target, -, rfl⟩ := hs.created hn hn'
    exact absurd hr (Nat.not_lt_zero r)
  | some p =>
    have hge : p.handles.length ≤ r := by
      by_contra hlt
      have hsome := handle?_eq_some.2 ⟨p, hn, Nat.lt_of_not_le hlt, rfl⟩
      exact nomatch hnone.symm.trans hsome
    obtain ⟨q, hq, hages⟩ := hs.ages hw hn
    cases Option.some.inj (hq.symm.trans hn')
    have hmove := hages.moves r
    rw [stateOf_of_length_le hge] at hmove
    refine hmove.resolve_left fun hcreated => ?_
    -- In between critical sections no handle is as it was when it was made.
    obtain ⟨hidle, hactive, hrest⟩ := hw'.listed hn' hr
    rw [hcreated] at hidle hactive hrest
    exact nomatch (hrest (fun hi => nomatch hidle.2 hi) fun ha => nomatch hactive.2 ha).1

/-- A handle that is done is retired. -/
theorem Reachable.retired_of_terminal (hw : Reachable w) {r : Ref} {h : Handle}
    (hh : w.handle? n r = some h) (hdone : h.data.state.isTerminal = true) : h.valid = false := by
  obtain ⟨p, hn, hr, rfl⟩ := handle?_eq_some.1 hh
  obtain ⟨hidle, hactive, hrest⟩ := hw.listed hn hr
  have hnot : ∀ state : HandleState, state.isTerminal = false → p.stateOf r ≠ state := by
    rintro state hstate rfl
    exact nomatch hstate.symm.trans hdone
  exact (hrest (fun hi => hnot .idle rfl (hidle.2 hi))
    fun ha => hnot .active rfl (hactive.2 ha)).2

/-- What is true of the handles of a world, and of what becomes of them. -/
structure LifeCycle (w : World S) : Prop where
  /-- A handle is in the state idle if it is in the idle list, in the state active if it is among
  the checkouts, and done if it is in neither list. -/
  listed : ∀ n p r h, w.pools[n]? = some p → w.handle? n r = some h →
    (h.data.state = .idle ↔ r ∈ p.idle) ∧ (h.data.state = .active ↔ r ∈ p.active) ∧
      (r ∉ p.idle → r ∉ p.active → h.data.state.isTerminal = true ∧ h.valid = false)
  /-- In a critical section it makes one move at most. -/
  moves : ∀ w', Section w w' → ∀ n r h, w.handle? n r = some h →
    ∃ h', w'.handle? n r = some h' ∧
      (h'.data.state = h.data.state ∨ h'.data.state ∈ h.data.state.next)
  /-- One that is made in the section was created there and made a move. -/
  made : ∀ w', Section w w' → ∀ n r h', w.handle? n r = none → w'.handle? n r = some h' →
    h'.data.state ∈ HandleState.created.next
  /-- One that is done is retired and stays as it is for good. -/
  final : ∀ w', Sections w w' → ∀ n r h, w.handle? n r = some h →
    h.data.state.isTerminal = true →
      h.valid = false ∧ ∃ h', w'.handle? n r = some h' ∧ h'.data.state = h.data.state ∧
        h'.valid = false
  /-- It is there for good, and keeps its number. -/
  keepsId : ∀ w', Sections w w' → ∀ n r h, w.handle? n r = some h →
    ∃ h', w'.handle? n r = some h' ∧ h'.data.id = h.data.id
  /-- No other handle of any pool has the same number. -/
  ownId : ∀ m n r s h h', w.handle? m r = some h → w.handle? n s = some h' →
    h.data.id = h'.data.id → m = n ∧ r = s

/-- From every reachable world on, handles live as they should. -/
theorem handles_move_forward (hw : Reachable w) : LifeCycle w := by
  constructor
  case listed =>
    intro n p r h hn hh
    obtain ⟨q, hq, hr, rfl⟩ := handle?_eq_some.1 hh
    cases Option.some.inj (hq.symm.trans hn)
    exact hw.listed hn hr
  case moves =>
    intro w' hs n r h hh
    obtain ⟨h', hh', -, hmove⟩ := hs.handle hw hh
    exact ⟨h', hh', hmove⟩
  case made =>
    intro w' hs n r h' hnone hh'
    exact hs.made hw hnone hh'
  case final =>
    intro w' hs n r h hh hdone
    obtain ⟨h', hh', -, hsame⟩ := Sections.handle hw hs hh
    have hw' : Reachable w' := hw.trans hs
    exact ⟨hw.retired_of_terminal hh hdone, h', hh', hsame hdone,
      hw'.retired_of_terminal hh' ((hsame hdone).symm ▸ hdone)⟩
  case keepsId =>
    intro w' hs n r h hh
    obtain ⟨h', hh', hid, -⟩ := Sections.handle hw hs hh
    exact ⟨h', hh', hid⟩
  case ownId =>
    intro m n r s h h' hh hh' hid
    exact hw.distinct.eq_of_id hh hh' hid

/-- One connection is closed with the pool, one is taken over, and one is returned. The caller from
whom one was taken over returns the handle as well. -/
def assorted : World Scripted :=
  runAll {} [
    .create {} { settings := { maxActive := 2, checkoutTimeout := 0 }, target := { url := "db" } },
    .acquire 0 .ordinary false, .act (.forceClose 0), .acquire 0 .ordinary false,
    .acquire 0 .ordinary false, .advance 1, .acquire 0 .ordinary false, .act (.release 2),
    .act (.release 1)]

/-- There is a handle in each state in which handles can be found. -/
theorem handles_move_forward_assorted :
    (assorted.pools.map fun p => p.handles.map (·.data.state)) =
        [[.closed, .reclaimed, .invalid, .active, .idle]] ∧
      LifeCycle assorted :=
  ⟨by decide +kernel, handles_move_forward (Reachable.runAll .refl _)⟩

end World

end ConnPool
