import ConnPool.Backend.Scripted
import ConnPool.Proofs.World.Fates
import Mathlib.Algebra.BigOperators.Group.Finset.Piecewise
import Mathlib.Data.Set.Card

/-!
# The books of a pool

The counts of a pool are kept in five places of its code. What they are to count is told here by
what happened in the critical sections of a run, without looking at the code: how acquires ended,
what became of the handles that they ended with (`Section.exits`), which acquires ever found nothing
(`FindsNothing`), and which connections were found bad (`Discards`, `ReturnsBad`).

* `Section.requests`, `Section.claimed`, `Section.waits`, `Section.bad`: what one critical section
  adds to a count.

**Theorem (`accounts_balance`).** After every run the counts of a pool are those of the events.
-/

namespace ConnPool

open Pool

theorem Phase.Starts.handed {phase : Phase} (h : phase.Starts) : phase.handed = [] := by
  cases phase with
  | ended => exact h.elim
  | woken | seeking | judging => rfl

/-- The members of a list are counted by a sum over a set that has them all. -/
theorem sum_mem_eq_length {s : Finset Ref} {l : List Ref} (hl : l.Nodup) (h : ∀ r ∈ l, r ∈ s) :
    ∑ r ∈ s, (if r ∈ l then 1 else 0) = l.length := by
  have hfilter : s.filter (· ∈ l) = l.toFinset := by
    ext r
    simp only [Finset.mem_filter, List.mem_toFinset]
    exact ⟨And.right, fun hr => ⟨h r hr, hr⟩⟩
  rw [← Finset.card_filter, hfilter, List.toFinset_card_of_nodup hl]

theorem overdue_invariant :
    PoolInvariant fun _ _ p _ => p.tally.overdueTime ≤ p.tally.checkoutTime where
  empty _ := Nat.le_refl 0
  later _ h := h
  seek st _ h := st.overdueTime_le h
  yield y _ _ h := y.overdueTime_le h

namespace World

variable {S : Type}

/-- The running counts of pool `n`. -/
def tallyOf (w : World S) (n : Nat) : Tally := ((w.pools[n]?).map (·.tally)).getD {}

theorem tallyOf_eq {w : World S} {n : Nat} {p : Pool} (hn : w.pools[n]? = some p) :
    w.tallyOf n = p.tally := by
  rw [tallyOf, hn]
  rfl

variable [Bench S]

/-! ## Events -/

/-- The acquire of ticket `t` has a turn and finds nothing: the pool is left open with no idle
connection, no room and no checkout that has lasted too long, and the acquire goes on waiting or has
failed for that. -/
def FindsNothing (n t : Nat) (w w' : World S) : Prop :=
  TurnOf n t w w' ∧ (∃ p, w'.pools[n]? = some p ∧ p.Saturated w'.env.now) ∧
    ∃ x, w'.tickets[t]? = some x ∧ x.isUnserved = true

/-- An acquire discards a candidate: a handle that no caller ever had is retired in its turn. -/
def Discards (n : Nat) (r : Ref) (w w' : World S) : Prop :=
  HasTurn n w w' ∧ r ∉ w'.lent n ∧
    ∃ p p', w.pools[n]? = some p ∧ w'.pools[n]? = some p' ∧ ¬p.Retired r ∧ p'.Retired r

variable {w w' : World S} {n t : Nat} {r : Ref} {p p' : Pool} {past : List (World S)}

/-- How a critical section comes by pool `n`. -/
inductive Visit (n : Nat) (w w' : World S) : Prop
  | absent (hn : w.pools[n]? = none) (hlent : w.lent n = []) (hlent' : w'.lent n = [])
      (htally : w'.tallyOf n = {}) (hno : ∀ t, ¬FindsNothing n t w w')
  | turn {t : Nat} {p p' : Pool} {phase : Phase} {turn : Turn} (hn : w.pools[n]? = some p)
      (ht : TurnOf n t w w') (h : Turned n t w w' p phase turn p')
  | quiet {p p' : Pool} (hn : w.pools[n]? = some p) (hno : ¬HasTurn n w w') (h : Quiet n w w' p p')

/-- Where there is no pool, an acquire gets its ticket and nothing else. -/
theorem TurnOf.eq_ticketed (h : TurnOf n t w w') (hw : Reachable w) (hn : w.pools[n]? = none) :
    w' = w.ticketed ∧ t = w.tickets.length := by
  have hsites := pools_eq_none_iff.1 hn
  cases h with
  | start d flag hd hw' ht =>
    exact ⟨hw'.trans (start_none hsites d.login flag), ht⟩
  | resume v hv hvn =>
    subst hvn
    rw [List.getElem?_eq_getElem (hw.queued.site v hv)] at hsites
    cases hsites

theorem TurnOf.pools_eq_none (h : TurnOf n t w w') (hw : Reachable w) (hn : w.pools[n]? = none) :
    w'.pools[n]? = none := by
  rw [(h.eq_ticketed hw hn).1]
  exact hn

theorem Section.visit (hs : Section w w') (hw : Reachable w) (n : Nat) : Visit n w w' := by
  cases hn : w.pools[n]? with
  | none =>
    obtain ⟨hlent', hempty⟩ := hs.blank hw hn
    refine .absent hn (lent_eq_nil hw hn) hlent' ?_ fun t ⟨ht, ⟨p, hp, _⟩, _⟩ => ?_
    · cases hn' : w'.pools[n]? with
      | none =>
        rw [tallyOf, hn']
        rfl
      | some p' =>
        obtain ⟨settings, target, rfl⟩ := hempty p' hn'
        exact tallyOf_eq hn'
    · exact nomatch hp.symm.trans (ht.pools_eq_none hw hn)
  | some p =>
    by_cases hturn : HasTurn n w w'
    · obtain ⟨t, ht⟩ := hturn
      obtain ⟨phase, turn, p', h⟩ := ht.turned hw hn
      exact .turn hn ht h
    · obtain ⟨p', h⟩ := hs.quiet hw hn hturn
      exact .quiet hn hturn h

omit [Bench S] in
theorem tallyOf_absent (hn : w.pools[n]? = none) : w.tallyOf n = {} := by
  rw [tallyOf, hn]
  rfl

/-! ## Requests -/

theorem Section.requests (hs : Section w w') (hw : Reachable w) (n : Nat) :
    (w'.tallyOf n).requests + (w.lent n).length =
      (w.tallyOf n).requests + (w'.lent n).length := by
  cases hs.visit hw n with
  | absent hn hlent hlent' htally => rw [htally, tallyOf_absent hn, hlent, hlent']
  | turn hn ht h =>
    obtain ⟨raised, hseeks⟩ := h.seeks
    have hbalance := hseeks.balanced.requests
    have hlength := h.lent.length_eq
    rw [List.length_append] at hlength
    rw [h.starts.handed] at hbalance
    rw [tallyOf_eq h.after, tallyOf_eq hn, hlength]
    simp only [Phase.handed, List.length_nil] at hbalance
    omega
  | quiet hn hno h => rw [tallyOf_eq h.after, tallyOf_eq hn, h.tally.1, h.lent]

/-! ## Take-overs -/

/-- No handle is given to callers twice. -/
theorem Reachable.nodup_lent (hw : Reachable w) (n : Nat) : (w.lent n).Nodup := by
  induction hw with
  | refl => exact .nil
  | @tail w w' hw hs ih =>
    replace hw : Reachable w := hw
    cases hs.visit hw n with
    | absent hn hlent hlent' =>
      rw [hlent']
      exact .nil
    | @turn t p p' phase turn hn ht h =>
      refine h.lent.nodup_iff.2 (List.nodup_append'.2 ⟨?_, ih, fun r hr => (h.handed hw hn hr).2⟩)
      rcases turn with ⟨a, e | r⟩ | ⟨a, d⟩
      · exact .nil
      · exact List.nodup_singleton r
      · exact .nil
    | quiet hn hno h => rwa [h.lent]

open scoped Classical in
/-- What a turn takes over and what it hands out make up the difference between the checkouts. Each
handle that was ever given to a caller is on both sides of the balance. -/
theorem Turned.checkouts {phase : Phase} {turn : Turn} (h : Turned n t w w' p phase turn p')
    (ht : TurnOf n t w w') (hs : Section w w') (hw : Reachable w) (hn : w.pools[n]? = some p) :
    p'.active.length + (∑ r ∈ (w'.lent n).toFinset, if Reclaims n r w w' then 1 else 0) +
      (w.lent n).length = p.active.length + (w'.lent n).length := by
  have hw' : Reachable w' := hw.tail hs
  have hhandle : ∀ r ∈ (w'.lent n).toFinset,
      (if r ∈ p'.active then 1 else 0) + (if Reclaims n r w w' then 1 else 0) +
          (if r ∈ w.lent n then 1 else 0) = (if r ∈ p.active then 1 else 0) + 1 := by
    intro r hr
    rw [List.mem_toFinset] at hr
    have hold : r ∈ p.active → r ∈ w.lent n := fun h => hw.lent_of_active ((active_iff hn).2 h)
    have henters := hs.enters (n := n) (r := r) hw
    have hreclaims : Reclaims n r w w' ↔ r ∈ p.active ∧ r ∉ p'.active := by
      rw [← active_iff hn, ← active_iff h.after]
      exact ⟨fun ⟨_, hout, q, hq, hin, _⟩ => ⟨⟨q, hq, hin⟩, hout⟩,
        fun hleaves => h.reclaims ht hw hn hleaves.1 hleaves.2⟩
    rw [active_iff hn, active_iff h.after] at henters
    by_cases hin : r ∈ p.active
    · by_cases hin' : r ∈ p'.active <;> simp [hin, hin', hreclaims, hold hin]
    · have hnew := henters hin
      by_cases hlent : r ∈ w.lent n <;> simp [hin, hreclaims, hnew, hlent, hr]
  have hsum := Finset.sum_congr rfl hhandle
  rw [Finset.sum_add_distrib, Finset.sum_add_distrib, Finset.sum_add_distrib] at hsum
  have hactive := (hw.owners.owned n p hn).nodup_active
  have hactive' := (hw'.owners.owned n p' h.after).nodup_active
  rwa [sum_mem_eq_length hactive' fun r hr => ?_,
    sum_mem_eq_length (hw.nodup_lent n) fun r hr => ?_,
    sum_mem_eq_length hactive fun r hr => ?_, ← Finset.card_eq_sum_ones,
    List.toFinset_card_of_nodup (hw'.nodup_lent n)] at hsum
  all_goals rw [List.mem_toFinset]
  · exact hs.lent_subset hw (hw.lent_of_active ((active_iff hn).2 hr))
  · exact hs.lent_subset hw hr
  · exact hw'.lent_of_active ((active_iff h.after).2 hr)

open scoped Classical in
theorem Section.claimed (hs : Section w w') (hw : Reachable w) (n : Nat) :
    (w'.tallyOf n).claimed = (w.tallyOf n).claimed +
      ∑ r ∈ (w'.lent n).toFinset, if Reclaims n r w w' then 1 else 0 := by
  cases hs.visit hw n with
  | absent hn hlent hlent' htally =>
    rw [htally, tallyOf_absent hn, hlent']
    rfl
  | turn hn ht h =>
    obtain ⟨raised, hseeks⟩ := h.seeks
    have hbalance := hseeks.balanced.claimed
    have hcheckouts := h.checkouts ht hs hw hn
    have hlength := h.lent.length_eq
    rw [List.length_append] at hlength
    rw [h.starts.handed] at hbalance
    rw [tallyOf_eq h.after, tallyOf_eq hn]
    simp only [Phase.handed, List.length_nil] at hbalance
    omega
  | quiet hn hno h =>
    have hnone : ∀ r ∈ (w'.lent n).toFinset, (if Reclaims n r w w' then 1 else 0) = 0 :=
      fun r _ => if_neg fun hreclaims => hno hreclaims.1
    rw [tallyOf_eq h.after, tallyOf_eq hn, h.tally.2.1, Finset.sum_eq_zero hnone]
    rfl

/-! ## Waits -/

/-- A turn finds nothing if the acquire is left with nothing and so is the pool. -/
theorem Turned.findsNothing_iff {phase : Phase} {turn : Turn}
    (h : Turned n t w w' p phase turn p') (ht : TurnOf n t w w') :
    FindsNothing n t w w' ↔ Stage.FoundNothing ⟨w'.env, p', .ended turn⟩ := by
  have hunserved := turn.isUnserved_ticket n
  constructor
  · rintro ⟨-, ⟨q, hq, hsaturated⟩, x, hx, hfailed⟩
    cases hq.symm.trans h.after
    cases hx.symm.trans h.ticket
    exact .of_ended (hunserved ▸ hfailed) hsaturated
  · rintro ⟨_, hphase, hturn, hsaturated⟩
    cases hphase
    exact ⟨ht, ⟨p', h.after, hsaturated⟩, _, h.ticket, hunserved.trans hturn⟩

/-- An acquire that finds nothing has just started, or was blocked. -/
theorem FindsNothing.cases (h : FindsNothing n t w w') :
    t = w.tickets.length ∨ ∃ v ∈ w.waiters, v.site = n ∧ v.ticket = t := by
  cases h.1 with
  | start _ _ _ _ ht => exact .inl ht
  | resume v hv hn ht => exact .inr ⟨v, hv, hn, ht⟩

theorem FindsNothing.lt (h : FindsNothing n t w w') : t < w'.tickets.length := by
  obtain ⟨-, -, x, hx, -⟩ := h
  exact (List.getElem?_eq_some_iff.1 hx).1

open scoped Classical in
/-- An acquire is counted among those that wait when it finds nothing in its first turn. -/
theorem Section.waits (hs : Section w w') (hw : Reachable w) (n : Nat) :
    (w'.tallyOf n).waits = (w.tallyOf n).waits +
      if FindsNothing n w.tickets.length w w' then 1 else 0 := by
  cases hs.visit hw n with
  | absent hn hlent hlent' htally hno =>
    rw [htally, tallyOf_absent hn, if_neg (hno _)]
  | @turn t p p' phase turn hn ht h =>
    obtain ⟨raised, hseeks⟩ := h.seeks
    have hbalance := hseeks.balanced.waits
    have hwaited := hseeks.waited h.starts h.awaited
    rw [tallyOf_eq h.after, tallyOf_eq hn]
    rcases h.stands with ⟨rfl, -, hcounted⟩ | ⟨-, hlen, hcounted⟩
    · rw [hcounted] at hwaited hbalance
      have hfinds : FindsNothing n w.tickets.length w w' ↔
          (Phase.ended turn).acquire.waitCounted = true := by
        rw [h.findsNothing_iff ht, hwaited]
        simp
      simp only [hfinds]
      cases hend : (Phase.ended turn).acquire.waitCounted with
      | false =>
        rw [hend] at hbalance
        exact hbalance
      | true =>
        rw [hend] at hbalance
        exact hbalance
    · have hend := hwaited.2 (.inl hcounted)
      rw [hcounted, hend] at hbalance
      rw [if_neg fun hfinds => absurd hfinds.lt (by rw [hlen]; exact Nat.lt_irrefl _)]
      exact Nat.add_right_cancel hbalance
  | quiet hn hno h =>
    rw [tallyOf_eq h.after, tallyOf_eq hn, h.tally.2.2,
      if_neg fun hfinds => hno ⟨_, hfinds.1⟩]
    rfl

/-! ## Bad connections -/

/-- What a turn casts off are candidates that it discards. -/
theorem Turned.discards_eq {phase : Phase} {turn : Turn} (h : Turned n t w w' p phase turn p')
    (ht : TurnOf n t w w') (hw : Reachable w) (hw' : Reachable w') (hn : w.pools[n]? = some p) :
    {r | Discards n r w w'} = ↑(p'.castOff (fun r => ∃ t, w.Given t n r) \
      p.castOff fun r => ∃ t, w.Given t n r) := by
  ext r
  rw [Set.mem_ofPred_eq, Finset.mem_coe, Finset.mem_sdiff, mem_castOff, mem_castOff, ← mem_lent]
  have hlent : p'.Retired r → (r ∉ w'.lent n ↔ r ∉ w.lent n) := by
    intro hretired
    refine not_congr ⟨fun hr => ?_, fun hr => h.lent.mem_iff.2 (List.mem_append_right _ hr)⟩
    rcases List.mem_append.1 (h.lent.mem_iff.1 hr) with hr | hr
    · have ho := hw'.owners.owned n p' h.after
      have hvalid := (ho.valid r).2 (mem_live_of_active (h.handed hw hn hr).1)
      exact absurd (hretired.2.symm.trans hvalid) nofun
    · exact hr
  constructor
  · rintro ⟨-, hnew, q, q', hq, hq', hold, hretired⟩
    cases hq.symm.trans hn
    cases hq'.symm.trans h.after
    exact ⟨⟨hretired, (hlent hretired).1 hnew⟩, fun hr => hold hr.1⟩
  · rintro ⟨⟨hretired, hnew⟩, hold⟩
    exact ⟨⟨t, ht⟩, (hlent hretired).2 hnew, p, p', hn, h.after, fun hr => hold ⟨hr, hnew⟩,
      hretired⟩

open scoped Classical in
theorem Section.bad (hs : Section w w') (hw : Reachable w) (n : Nat) :
    (w'.tallyOf n).bad = (w.tallyOf n).bad + {r | Discards n r w w'}.ncard +
      if ReturnsBad n w w' then 1 else 0 := by
  have hw' : Reachable w' := hw.tail hs
  have hempty : (∀ r, ¬Discards n r w w') → {r | Discards n r w w'}.ncard = 0 := by
    intro hno
    have hnone : {r | Discards n r w w'} = ∅ := Set.eq_empty_iff_forall_notMem.2 hno
    rw [hnone, Set.ncard_empty]
  cases hs.visit hw n with
  | absent hn hlent hlent' htally =>
    have hdiscards : ∀ r, ¬Discards n r w w' := fun r ⟨_, _, p, _, hp, _⟩ =>
      nomatch hn.symm.trans hp
    have hreturns : ¬ReturnsBad n w w' := fun ⟨_, _, _, site, _, hsite, _⟩ =>
      nomatch hn.symm.trans (pools_getElem? hsite)
    rw [htally, tallyOf_absent hn, hempty hdiscards, if_neg hreturns]
  | @turn t p p' phase turn hn ht h =>
    obtain ⟨raised, hseeks⟩ := h.seeks
    have ho : Owned w.env p (p.live phase.hand) := h.starts.hand ▸ hw.owners.owned n p hn
    have hcasts := hseeks.castsOff ho (hw.owners.spares hn h.starts) fun r hr =>
      mem_lent.1 (hw.lent_of_active ((active_iff hn).2 hr))
    have hsubset : p.castOff (fun r => ∃ t, w.Given t n r) ⊆ p'.castOff _ := hcasts.subset
    have hbad : p'.tally.bad + (p.castOff _).card = p.tally.bad + (p'.castOff _).card := hcasts.bad
    have hle := Finset.card_le_card hsubset
    rw [if_neg fun hbad => h.not_spends hbad.spends.choose_spec, h.discards_eq ht hw hw' hn,
      Set.ncard_coe_finset, Finset.card_sdiff_of_subset hsubset, tallyOf_eq h.after,
      tallyOf_eq hn]
    omega
  | quiet hn hno h =>
    rw [tallyOf_eq h.after, tallyOf_eq hn, hempty fun r hr => hno hr.1]
    rcases h.bad with ⟨hbad, hnone⟩ | ⟨hbad, hsome⟩
    · rw [if_neg hnone, hbad]
      rfl
    · rw [if_pos hsome, hbad]

/-! ## Whole runs -/

open scoped Classical in
/-- Each handle that was given to a caller is checked out, or its checkout ended in one way. -/
theorem Run.fate (hr : Run w past) (n : Nat) (r : Ref) :
    (if Active n r w then 1 else 0) + times (Reclaims n r) w past + times (Returns n r) w past +
        times (Detaches n r) w past + times (Retires n r) w past =
      if r ∈ w.lent n then 1 else 0 := by
  induction hr with
  | start =>
    have hnone : ¬Active n r ({} : World S) := fun ⟨p, hn, _⟩ => by simp [pools] at hn
    rw [if_neg hnone]
    rfl
  | next hr hs ih =>
    have hcheckouts := hs.checkouts hr.reachable n r
    have hexits := hs.exits hr.reachable n r
    simp only [times_next]
    omega

theorem Run.requests (hr : Run w past) (n : Nat) :
    (w.tallyOf n).requests = (w.lent n).length := by
  induction hr with
  | start => rfl
  | next hr hs ih =>
    have hsection := hs.requests hr.reachable n
    omega

/-- What the acquires of a pool ended with grows at the end of turns. -/
theorem Section.lent_insert (hs : Section w w') (hw : Reachable w) (n : Nat) :
    (w.lent n).toFinset ⊆ (w'.lent n).toFinset := fun _ hr =>
  List.mem_toFinset.2 (hs.lent_subset hw (List.mem_toFinset.1 hr))

theorem Run.claimed (hr : Run w past) (n : Nat) :
    (w.tallyOf n).claimed = ∑ r ∈ (w.lent n).toFinset, times (Reclaims n r) w past := by
  classical
  induction hr with
  | start => rfl
  | @next w w' past hr hs ih =>
    have hw := hr.reachable
    -- A handle that is new to callers was not taken over in earlier sections.
    have hnew : ∀ r ∈ (w'.lent n).toFinset, r ∉ (w.lent n).toFinset →
        times (Reclaims n r) w past = 0 := by
      intro r _ hr'
      have hfate := hr.fate n r
      rw [if_neg fun h => hr' (List.mem_toFinset.2 h)] at hfate
      omega
    simp only [times_next, Finset.sum_add_distrib]
    rw [hs.claimed hw n, ih, Finset.sum_subset (hs.lent_insert hw n) hnew]

theorem Run.bad (hr : Run w past) (n : Nat) :
    (w.tallyOf n).bad =
      ((moves w past).map fun m => {r | Discards n r m.1 m.2}.ncard).sum +
        times (ReturnsBad n) w past := by
  classical
  induction hr with
  | start => rfl
  | next hr hs ih =>
    rw [hs.bad hr.reachable n, ih, times_next, moves, List.map_cons, List.sum_cons]
    dsimp only
    omega

/-- The acquires that found nothing are tickets, and those that are blocked are among them. -/
structure Waits (n : Nat) (w : World S) (past : List (World S)) : Prop where
  lt : ∀ t, 0 < times (FindsNothing n t) w past → t < w.tickets.length
  waiters : ∀ v ∈ w.waiters, v.site = n → 0 < times (FindsNothing n v.ticket) w past
  count : (w.tallyOf n).waits =
    ((Finset.range w.tickets.length).filter fun t => 0 < times (FindsNothing n t) w past).card

/-- No ticket is taken back. -/
theorem Section.length_tickets (hs : Section w w') (hw : Reachable w) :
    w.tickets.length ≤ w'.tickets.length := by
  refine Nat.le_of_not_lt fun hlt => ?_
  obtain ⟨y, hy, -⟩ := hw.queued.becomes hs (List.getElem?_eq_getElem hlt)
  exact absurd (List.getElem?_eq_some_iff.1 hy).1 (Nat.lt_irrefl _)

namespace Waits

theorem mem_filter (h : Waits n w past) :
    t ∈ (Finset.range w.tickets.length).filter (fun t => 0 < times (FindsNothing n t) w past) ↔
      0 < times (FindsNothing n t) w past := by
  rw [Finset.mem_filter, Finset.mem_range]
  exact and_iff_right_of_imp (h.lt t)

theorem pos_next (hs : 0 < times (FindsNothing n t) w past ∨ FindsNothing n t w w') :
    0 < times (FindsNothing n t) w' (w :: past) := by
  classical
  rw [times_next]
  rcases hs with hold | hnew
  · exact Nat.add_pos_left hold _
  · rw [if_pos hnew]
    exact Nat.succ_pos _

theorem of_pos_next (h : 0 < times (FindsNothing n t) w' (w :: past)) :
    0 < times (FindsNothing n t) w past ∨ FindsNothing n t w w' := by
  classical
  rw [times_next] at h
  by_cases hnew : FindsNothing n t w w'
  · exact .inr hnew
  · rw [if_neg hnew] at h
    exact .inl h

/-- The acquire that goes back to sleep has found nothing. -/
theorem waiters_next (h : Waits n w past) (hs : Section w w') (hw : Reachable w) {v : Waiter}
    (hv : v ∈ w'.waiters) (hsite : v.site = n) :
    0 < times (FindsNothing n v.ticket) w' (w :: past) := by
  refine pos_next ?_
  rcases hs.calm_or_turnOf hw with hc | ⟨m, t, p, ht, hn⟩
  · obtain ⟨u, hu, heq⟩ := hc.comes hv
    obtain ⟨hticket, husite, -⟩ := Waiter.of_asleep_eq heq
    exact .inl (hticket ▸ h.waiters u hu (husite.trans hsite))
  · obtain ⟨phase, turn, p', hturned⟩ := ht.turned hw hn
    rcases hturned.waiters v hv with hv | ⟨rfl, rfl, d, rfl⟩
    · exact .inl (h.waiters v hv hsite)
    · subst hsite
      obtain ⟨raised, hseeks⟩ := hturned.seeks
      refine .inr ((hturned.findsNothing_iff ht).2 (.of_ended rfl ?_))
      exact (seeks_sleep hseeks hturned.starts).2

theorem next (h : Waits n w past) (hs : Section w w') (hw : Reachable w) :
    Waits n w' (w :: past) := by
  classical
  have hlt : ∀ t, 0 < times (FindsNothing n t) w' (w :: past) → t < w'.tickets.length := by
    intro t ht
    rcases of_pos_next ht with hold | hnew
    · exact Nat.lt_of_lt_of_le (h.lt t hold) (hs.length_tickets hw)
    · exact hnew.lt
  refine ⟨hlt, fun v hv hsite => h.waiters_next hs hw hv hsite, ?_⟩
  -- Of the acquires that find nothing now, only one that has just started is a new one.
  have hnew : w.tickets.length ∉ (Finset.range w.tickets.length).filter
      fun t => 0 < times (FindsNothing n t) w past := by simp
  have hmem : ∀ t, 0 < times (FindsNothing n t) w' (w :: past) ↔
      (t = w.tickets.length ∧ FindsNothing n t w w') ∨ 0 < times (FindsNothing n t) w past := by
    intro t
    constructor
    · intro ht
      rcases of_pos_next ht with hold | hfinds
      · exact .inr hold
      · rcases hfinds.cases with hlen | ⟨v, hv, hsite, rfl⟩
        · exact .inl ⟨hlen, hfinds⟩
        · exact .inr (h.waiters v hv hsite)
    · exact fun ht => pos_next (ht.symm.imp_right And.right)
  have hset : (Finset.range w'.tickets.length).filter
      (fun t => 0 < times (FindsNothing n t) w' (w :: past)) =
        if FindsNothing n w.tickets.length w w' then
          insert w.tickets.length ((Finset.range w.tickets.length).filter
            fun t => 0 < times (FindsNothing n t) w past)
        else (Finset.range w.tickets.length).filter
          fun t => 0 < times (FindsNothing n t) w past := by
    ext t
    rw [Finset.mem_filter, Finset.mem_range, and_iff_right_of_imp (hlt t), hmem]
    split
    · next hfinds =>
      rw [Finset.mem_insert, h.mem_filter]
      exact or_congr_left ⟨And.left, fun heq => ⟨heq, heq ▸ hfinds⟩⟩
    · next hno =>
      rw [h.mem_filter]
      exact or_iff_right fun ⟨heq, hfinds⟩ => hno (heq ▸ hfinds)
  rw [hs.waits hw n, h.count, hset]
  split
  · rw [Finset.card_insert_of_notMem hnew]
  · rfl

end Waits

theorem Run.waits (hr : Run w past) (n : Nat) : Waits n w past := by
  induction hr with
  | start =>
    exact ⟨fun t ht => absurd ht (Nat.lt_irrefl 0), fun _ hv => absurd hv List.not_mem_nil, rfl⟩
  | next hr hs ih => exact ih.next hs hr.reachable

/-! ## The books -/

open scoped Classical in
/-- The counts of pool `n` after a run are what happened in it. -/
structure Accounted (n : Nat) (w : World S) (past : List (World S)) (p : Pool) : Prop where
  /-- The requests are the acquires that ended with a handle, each with a handle of its own. -/
  requests : p.status.requests = (w.lent n).length
  once : (w.lent n).Nodup
  /-- Each of these handles is still checked out, or was taken over, or was returned while it was
  valid, or was detached, or was retired by order: one of these, and that once in the whole run. -/
  fate : ∀ r ∈ w.lent n, (if r ∈ p.active then 1 else 0) + times (Reclaims n r) w past +
    times (Returns n r) w past + times (Detaches n r) w past + times (Retires n r) w past = 1
  /-- The overdue checkouts that were claimed are those that were taken over. -/
  claimed : p.status.claimed = ∑ r ∈ (w.lent n).toFinset, times (Reclaims n r) w past
  /-- Acquires had to wait if they ever found nothing, no matter how often. -/
  waits : p.status.waits =
    ((Finset.range w.tickets.length).filter fun t => 0 < times (FindsNothing n t) w past).card
  /-- Bad connections are discarded candidates and handles that were returned in a bad state. -/
  bad : p.status.bad = ((moves w past).map fun m => {r | Discards n r m.1 m.2}.ncard).sum +
    times (ReturnsBad n) w past
  overdue : p.tally.overdueTime ≤ p.tally.checkoutTime

/-- The books of a pool balance after every run. -/
theorem accounts_balance (hr : Run w past) (hn : w.pools[n]? = some p) : Accounted n w past p where
  requests := by
    rw [← hr.requests n, tallyOf_eq hn]
    rfl
  once := hr.reachable.nodup_lent n
  fate r hlent := by
    have hfate := hr.fate n r
    rw [if_pos hlent] at hfate
    simpa only [active_iff hn] using hfate
  claimed := by
    rw [← hr.claimed n, tallyOf_eq hn]
    rfl
  waits := by
    rw [← (hr.waits n).count, tallyOf_eq hn]
    rfl
  bad := by
    rw [← hr.bad n, tallyOf_eq hn]
    rfl
  overdue := hr.reachable.pool overdue_invariant hn

/-- One acquire waits until another one gives its connection back; a third takes the connection over
after too long, and the handle that is returned then is a bad one. -/
def busy : World Scripted :=
  runAll {} [
    .create {} { settings := { maxActive := 1, checkoutTimeout := 5 }, target := { url := "db" } },
    .acquire 0 .ordinary false, .acquire 0 .ordinary false, .act (.release 0), .advance 9,
    .acquire 0 .ordinary false, .act (.release 1)]

/-- All the counts of the pool have gone up, and they are accounted for. -/
theorem accounts_balance_busy :
    ∃ past p, Run busy past ∧ busy.pools[0]? = some p ∧ p.status.requests = 3 ∧
      p.status.claimed = 1 ∧ p.status.waits = 1 ∧ p.status.bad = 1 ∧ Accounted 0 busy past p := by
  have hfacts : ∃ p ∈ busy.pools[0]?, p.status.requests = 3 ∧ p.status.claimed = 1 ∧
      p.status.waits = 1 ∧ p.status.bad = 1 := by decide +kernel
  obtain ⟨p, hn, hrequests, hclaimed, hwaits, hbad⟩ := hfacts
  obtain ⟨past, hr⟩ := (Reachable.runAll .refl _ : Reachable busy).exists_run
  exact ⟨past, p, hr, hn, hrequests, hclaimed, hwaits, hbad, accounts_balance hr hn⟩

end World

end ConnPool
