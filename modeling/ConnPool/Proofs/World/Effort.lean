import ConnPool.Backend.Scripted
import ConnPool.Proofs.Pool.Effort
import ConnPool.Proofs.World.Accounting
import ConnPool.Proofs.World.Courses

/-!
# The effort of acquires

An acquire may have many turns, but only in one of them it goes for candidates: a turn in which it
tried one ends with an answer, so the acquire is over and has no turn after it (`Run.tries`). What
is bounded in each turn is therefore bounded over the whole life of the acquire.

* `Course.discards`: the candidates that an acquire discards are the bad ones that it knows of.
* `Course.tried`: they are no more than the settings allow for, and one more.

**Theorem (`effort_bounded`).** So are the candidates and the attempts to connect of an acquire, and
it gives up when it has met them all.
-/

namespace ConnPool

open Pool

/-- If a sum is made up by the members of some kind, and there is only one of them, then that one is
the sum. -/
theorem sum_map_of_countP_le_one {α M : Type} [AddMonoid M] {kind : α → Prop}
    [DecidablePred kind] {f : α → M} {l : List α} (hone : l.countP kind ≤ 1)
    (hzero : ∀ x ∈ l, ¬kind x → f x = 0) {x : α} (hx : x ∈ l) (hkind : kind x) :
    (l.map f).sum = f x := by
  induction l with
  | nil => exact absurd hx List.not_mem_nil
  | cons y rest ih =>
    rw [List.map_cons, List.sum_cons]
    have hrest : ∀ z ∈ rest, ¬kind z → f z = 0 := fun z hz =>
      hzero z (List.mem_cons_of_mem y hz)
    by_cases hy : kind y
    · have hnone : rest.countP kind = 0 := by
        simp only [List.countP_cons, hy, decide_true, if_true] at hone
        omega
      have hother : ∀ z ∈ rest, ¬kind z := by simpa [List.countP_eq_zero] using hnone
      obtain rfl : x = y := (List.mem_cons.1 hx).resolve_right fun hx => hother x hx hkind
      have hsum : (rest.map f).sum = 0 := by
        refine List.sum_eq_zero fun m hm => ?_
        obtain ⟨z, hz, rfl⟩ := List.mem_map.1 hm
        exact hrest z hz (hother z hz)
      rw [hsum, add_zero]
    · have hx : x ∈ rest := (List.mem_cons.1 hx).resolve_left fun heq => hy (heq ▸ hkind)
      have hone : rest.countP kind ≤ 1 := by simpa [List.countP_cons, hy] using hone
      rw [hzero y (List.mem_cons_self ..) hy, zero_add, ih hone hrest hx]

theorem Numbered.length {n attempts : Nat} {e : Env} (h : Numbered n e attempts) :
    (e.connectsOf n).length = attempts := by
  have hlength := congrArg List.length h
  simpa using hlength

theorem Phase.Starts.tried {phase : Phase} (h : phase.Starts) :
    phase.tried = phase.acquire.bad := by
  cases phase with
  | woken | seeking => rfl
  | judging | ended => exact h.elim

theorem Phase.Starts.within {phase : Phase} {limit : Nat} (h : phase.Starts)
    (hbad : phase.acquire.bad = 0) : phase.Within limit := by
  cases phase with
  | woken | seeking => exact hbad.trans_le (Nat.zero_le limit)
  | judging | ended => exact h.elim

/-- The candidates that an acquire has tried in a turn are the bad ones and the one it ends with. -/
theorem Turn.bad_add_handed_le (turn : Turn) :
    (Phase.ended turn).acquire.bad + turn.handed.length ≤ (Phase.ended turn).tried := by
  rcases turn with ⟨a, e | r⟩ | ⟨a, d⟩
  · cases e with
    | factory => exact Nat.le_succ a.bad
    | _ => exact Nat.le_refl a.bad
  · exact Nat.le_refl _
  · exact Nat.le_refl _

namespace World

variable {S : Type} [Bench S]

/-! ## What an acquire does in its turns -/

/-- The acquire of ticket `t` has a candidate: it discards it, or its caller gets it. -/
def Examines (n t : Nat) (r : Ref) (w w' : World S) : Prop :=
  TurnOf n t w w' ∧ (Discards n r w w' ∨ HandsOut n t r w w')

/-- The acquire of ticket `t` takes a checkout over. -/
def TakesOver (n t : Nat) (r : Ref) (w w' : World S) : Prop :=
  TurnOf n t w w' ∧ Reclaims n r w w'

open scoped Classical in
/-- How many connections the acquire of ticket `t` asks for in a critical section. -/
noncomputable def asked (n t : Nat) (w w' : World S) : Nat :=
  if TurnOf n t w w' then (w'.env.connectsOf n).length - (w.env.connectsOf n).length else 0

/-- The acquire of ticket `t` goes for candidates: it calls the backend, or takes or discards a
handle. -/
def Tries (n t : Nat) (w w' : World S) : Prop :=
  TurnOf n t w w' ∧ (w'.env.calls ≠ w.env.calls ∨
    ∃ r, Discards n r w w' ∨ Reclaims n r w w' ∨ HandsOut n t r w w')

omit [Bench S] in
/-- What some amount comes to over the critical sections of a run. -/
def total {M : Type} [AddMonoid M] (amount : World S → World S → M) (w : World S)
    (past : List (World S)) : M :=
  ((moves w past).map fun m => amount m.1 m.2).sum

/-- The acquire of ticket `t` has come to an end. -/
def IsOver (t : Nat) (w : World S) : Prop := ∃ x, w.tickets[t]? = some x ∧ x ≠ .waiting

variable {w w' : World S} {n t : Nat} {r : Ref} {p p' : Pool} {phase : Phase} {turn : Turn}
  {past : List (World S)}

theorem encard_mem_le (l : List Ref) : {r | r ∈ l}.encard ≤ l.length := by
  have hset : {r | r ∈ l} = ↑l.toFinset := by
    ext r
    simp
  rw [hset, Set.encard_coe_eq_coe_finsetCard]
  exact Nat.cast_le.2 (List.toFinset_card_le l)

/-! ## Without a candidate -/

theorem examines_of_not_tries (h : ¬Tries n t w w') : {r | Examines n t r w w'} = ∅ := by
  refine Set.eq_empty_of_forall_notMem fun r hr => ?_
  exact h ⟨hr.1, .inr ⟨r, hr.2.imp_right .inr⟩⟩

theorem takesOver_of_not_tries (h : ¬Tries n t w w') : {r | TakesOver n t r w w'} = ∅ := by
  refine Set.eq_empty_of_forall_notMem fun r hr => ?_
  exact h ⟨hr.1, .inr ⟨r, .inr (.inl hr.2)⟩⟩

theorem asked_of_not_tries (h : ¬Tries n t w w') : asked n t w w' = 0 := by
  unfold asked
  split
  · next ht =>
    have hcalls : w'.env.calls = w.env.calls := by
      by_contra hne
      exact h ⟨ht, .inl hne⟩
    rw [Env.connectsOf, Env.connectsOf, Env.connects, Env.connects, hcalls, Nat.sub_self]
  · rfl

/-! ## One turn -/

omit [Bench S] in
/-- A turn that is not in vain ends the acquire. -/
theorem isOver_of_course (hticket : w'.tickets[t]? = some (turn.ticket n))
    (hturn : turn.inVain = false) : IsOver t w' := by
  refine ⟨_, hticket, ?_⟩
  rcases turn with ⟨a, e | r⟩ | ⟨a, d⟩
  · exact Ticket.noConfusion
  · exact Ticket.noConfusion
  · exact nomatch hturn

namespace Course

variable (h : Course n t w w' p phase turn p')
include h

omit [Bench S] in
theorem bad (hn : w.pools[n]? = some p) :
    (w'.tallyOf n).bad = (w.tallyOf n).bad + (Phase.ended turn).acquire.bad := by
  obtain ⟨raised, hseeks⟩ := h.seeks
  have hbad : p'.tally.bad + phase.acquire.bad = p.tally.bad + (Phase.ended turn).acquire.bad :=
    hseeks.bad
  rw [h.unspent] at hbad
  rw [tallyOf_eq hn, tallyOf_eq h.after]
  exact hbad

/-- The candidates that an acquire discards in its turn are the bad ones that it has met. -/
theorem discards (ht : TurnOf n t w w') (hw : Reachable w) (hw' : Reachable w')
    (hn : w.pools[n]? = some p) :
    {r | Discards n r w w'}.encard = (Phase.ended turn).acquire.bad := by
  obtain ⟨raised, hseeks⟩ := h.seeks
  obtain ⟨phase₁, turn₁, p₁, hturned⟩ := ht.turned hw hn
  obtain rfl : p₁ = p' := Option.some.inj (hturned.after.symm.trans h.after)
  have hcasts := hseeks.castsOff h.owned (hw.owners.spares hn h.starts) fun r hr =>
    mem_lent.1 (hw.lent_of_active ((active_iff hn).2 hr))
  have hbad := h.bad hn
  rw [tallyOf_eq hn, tallyOf_eq h.after] at hbad
  have hcard : p₁.tally.bad + (p.castOff fun r => ∃ t, w.Given t n r).card =
      p.tally.bad + (p₁.castOff fun r => ∃ t, w.Given t n r).card := hcasts.bad
  rw [hturned.discards_eq ht hw hw' hn, Set.encard_coe_eq_coe_finsetCard,
    Finset.card_sdiff_of_subset hcasts.subset]
  congr 1
  dsimp only
  omega

omit [Bench S] in
/-- The candidates of a turn are limited by the settings. -/
theorem within : (Phase.ended turn).Within p.settings.badLimit := by
  obtain ⟨raised, hseeks⟩ := h.seeks
  have hwithin := hseeks.within (h.starts.within h.unspent)
  rw [hseeks.settings] at hwithin
  exact hwithin

omit [Bench S] in
theorem tried : (Phase.ended turn).tried ≤ p.settings.badLimit + 1 := h.within.tried_le

omit [Bench S] in
theorem mem_handed (hr : HandsOut n t r w w') : r ∈ turn.handed := by
  have hheld := h.ticket.symm.trans hr.1
  rcases turn with ⟨a, e | s⟩ | ⟨a, d⟩
  · exact nomatch hheld
  · cases hheld
    exact List.mem_singleton_self r
  · exact nomatch hheld

theorem examines (ht : TurnOf n t w w') (hw : Reachable w) (hw' : Reachable w')
    (hn : w.pools[n]? = some p) :
    {r | Examines n t r w w'}.encard ≤ (p.settings.badLimit + 1 : Nat) := by
  have hsubset : {r | Examines n t r w w'} ⊆ {r | Discards n r w w'} ∪ {r | r ∈ turn.handed} := by
    rintro r ⟨-, hr | hr⟩
    · exact .inl hr
    · exact .inr (h.mem_handed hr)
  calc {r | Examines n t r w w'}.encard
      ≤ {r | Discards n r w w'}.encard + {r | r ∈ turn.handed}.encard :=
        (Set.encard_le_encard hsubset).trans (Set.encard_union_le _ _)
    _ ≤ ((Phase.ended turn).acquire.bad + turn.handed.length : Nat) := by
        rw [h.discards ht hw hw' hn, Nat.cast_add]
        exact add_le_add_right (encard_mem_le turn.handed) _
    _ ≤ (p.settings.badLimit + 1 : Nat) :=
        Nat.cast_le.2 (turn.bad_add_handed_le.trans h.tried)

theorem connects (hw : Reachable w) (hw' : Reachable w') (hn : w.pools[n]? = some p) :
    (w'.env.connectsOf n).length ≤ (w.env.connectsOf n).length + (p.settings.badLimit + 1) := by
  obtain ⟨raised, hseeks⟩ := h.seeks
  have hattempts : p'.attempts + phase.tried ≤ p.attempts + (Phase.ended turn).tried :=
    hseeks.attempts
  rw [h.starts.tried, h.unspent] at hattempts
  have htried := h.tried
  rw [(hw.numbered n).length, (hw'.numbered n).length, attemptsOf_eq hn, attemptsOf_eq h.after]
  omega

omit [Bench S] in
theorem talks : ∃ conns : List Nat, conns.length ≤ p.settings.badLimit + 1 ∧
    w.env.TalksTo n conns w'.env := by
  obtain ⟨raised, hseeks⟩ := h.seeks
  obtain ⟨conns, htalks⟩ := hseeks.talks h.starts
  have hlength := htalks.length
  dsimp only at hlength
  rw [h.starts.tried, h.unspent] at hlength
  have htried := h.tried
  exact ⟨conns, by omega, htalks.calls⟩

theorem takesOver (hn : w.pools[n]? = some p) : {r | TakesOver n t r w w'}.encard ≤ 1 := by
  have hleaves : ∀ {r}, TakesOver n t r w w' → r ∈ p.active ∧ r ∉ p'.active := by
    rintro r ⟨-, -, hout, q, hq, hin, -⟩
    obtain rfl : q = p := Option.some.inj (hq.symm.trans hn)
    exact ⟨hin, fun hr => hout ((active_iff h.after).2 hr)⟩
  rw [Set.encard_le_one_iff]
  intro r s hr hs
  obtain ⟨hr, hr'⟩ := hleaves hr
  obtain ⟨hs, hs'⟩ := hleaves hs
  cases hturn : turn.inVain with
  | true => exact absurd ((h.untouched hturn).active ▸ hr) hr'
  | false =>
    obtain ⟨gone, hsifts⟩ := h.sifts hturn
    have hactive : p.active ++ turn.handed = gone.toList ++ p'.active := hsifts.active
    have hgone : ∀ {r}, r ∈ p.active → r ∉ p'.active → r ∈ gone := by
      intro r hr hr'
      have hmem := List.mem_append_left turn.handed hr
      rw [hactive] at hmem
      exact Option.mem_toList.1 ((List.mem_append.1 hmem).resolve_right hr')
    exact Option.some.inj ((hgone hr hr').symm.trans (hgone hs hs'))

/-- A turn in vain tries nothing. -/
theorem not_tries (hn : w.pools[n]? = some p) (hturn : turn.inVain = true) : ¬Tries n t w w' := by
  have hu := h.untouched hturn
  rintro ⟨ht, hcalls | ⟨r, ⟨-, -, q, q', hq, hq', hold, hnew⟩ | hr | hr⟩⟩
  · exact hcalls hu.calls
  · obtain rfl : q = p := Option.some.inj (hq.symm.trans hn)
    obtain rfl : q' = p' := Option.some.inj (hq'.symm.trans h.after)
    exact hold ((retired_congr hu.handles).1 hnew)
  · obtain ⟨-, hout, q, hq, hin, -⟩ := hr
    obtain rfl : q = p := Option.some.inj (hq.symm.trans hn)
    exact hout ((active_iff h.after).2 (hu.active ▸ hin))
  · have hhanded := h.mem_handed hr
    rcases turn with ⟨a, e | s⟩ | ⟨a, d⟩
    · exact nomatch hhanded
    · exact nomatch hturn
    · exact nomatch hhanded

omit [Bench S] in
/-- An acquire gives up if and only if it has met one bad candidate too many. -/
theorem exhausted_iff : (∃ k, w'.tickets[t]? = some (.failed (.exhausted k))) ↔
    (Phase.ended turn).acquire.bad = p.settings.badLimit + 1 := by
  have hwithin := h.within
  constructor
  · rintro ⟨k, hk⟩
    obtain ⟨a, rfl⟩ := Turn.eq_of_failed (Option.some.inj (h.ticket.symm.trans hk))
    exact hwithin.1
  · intro hbad
    have hmore : ¬(Phase.ended turn).acquire.bad ≤ p.settings.badLimit := by
      rw [hbad]
      exact Nat.not_succ_le_self _
    rcases turn with ⟨a, e | r⟩ | ⟨a, d⟩
    · cases e with
      | exhausted k => exact ⟨k, h.ticket⟩
      | _ => exact absurd hwithin hmore
    · exact absurd hwithin hmore
    · exact absurd hwithin hmore

omit [Bench S] in
theorem exhausted_eq {k : Nat} (hk : w'.tickets[t]? = some (.failed (.exhausted k))) :
    k = p.settings.badLimit + 1 := by
  have hwithin := h.within
  obtain ⟨a, rfl⟩ := Turn.eq_of_failed (Option.some.inj (h.ticket.symm.trans hk))
  exact hwithin.2

end Course

/-! ## One turn of all -/

theorem IsOver.preserved (h : IsOver t w) (hw : Reachable w) (hs : Section w w') :
    IsOver t w' := by
  obtain ⟨x, hx, hover⟩ := h
  obtain ⟨y, hy, hbecomes⟩ := hw.queued.becomes hs hx
  refine ⟨y, hy, ?_⟩
  rintro rfl
  exact hover hbecomes.eq_waiting

/-- An acquire that is over has no turn. -/
theorem IsOver.not_turnOf (h : IsOver t w) (hw : Reachable w) : ¬TurnOf n t w w' := by
  obtain ⟨x, hx, hover⟩ := h
  intro ht
  cases ht with
  | start d flag hd hw' ht =>
    rw [ht, List.getElem?_eq_none (Nat.le_refl _)] at hx
    exact nomatch hx
  | resume v hv hvn ht =>
    rw [← ht, hw.queued.waiting v hv] at hx
    exact hover (Option.some.inj hx).symm

theorem Tries.exists_pool (h : Tries n t w w') (hw : Reachable w) :
    ∃ p, w.pools[n]? = some p := by
  cases hn : w.pools[n]? with
  | some p => exact ⟨p, rfl⟩
  | none =>
    obtain ⟨ht, htried⟩ := h
    obtain ⟨rfl, rfl⟩ := ht.eq_ticketed hw hn
    rcases htried with hcalls | ⟨r, ⟨-, -, q, -, hq, -⟩ | ⟨-, -, q, hq, -⟩ | hr⟩
    · exact absurd rfl hcalls
    · exact nomatch hn.symm.trans hq
    · exact nomatch hn.symm.trans hq
    · have hwaiting : w.ticketed.tickets[w.tickets.length]? = some .waiting :=
        List.getElem?_concat_length
      exact nomatch hwaiting.symm.trans hr.1

theorem Tries.isOver (h : Tries n t w w') (hw : Reachable w) : IsOver t w' := by
  obtain ⟨p, hn⟩ := h.exists_pool hw
  obtain ⟨phase, turn, p', hcourse⟩ := h.1.course hw hn
  refine isOver_of_course hcourse.ticket ?_
  cases hturn : turn.inVain with
  | true => exact absurd h (hcourse.not_tries hn hturn)
  | false => rfl

open scoped Classical in
/-- An acquire goes for candidates in one turn at most, and is over after it. -/
theorem Run.tries (hr : Run w past) (n t : Nat) :
    times (Tries n t) w past ≤ if IsOver t w then 1 else 0 := by
  induction hr with
  | start => exact Nat.zero_le _
  | @next w w' past hr hs ih =>
    rw [times_next]
    by_cases htries : Tries n t w w'
    · have hnot : ¬IsOver t w := fun hover => hover.not_turnOf hr.reachable htries.1
      rw [if_neg hnot] at ih
      rw [if_pos htries, if_pos (htries.isOver hr.reachable)]
      omega
    · rw [if_neg htries]
      by_cases hover : IsOver t w
      · rw [if_pos hover] at ih
        rw [if_pos (hover.preserved hr.reachable hs)]
        exact ih
      · rw [if_neg hover] at ih
        omega

open scoped Classical in
theorem Run.tries_le_one (hr : Run w past) (n t : Nat) : times (Tries n t) w past ≤ 1 := by
  refine (hr.tries n t).trans ?_
  split
  · exact Nat.le_refl 1
  · exact Nat.zero_le 1

/-- What an acquire comes to over a run is what it comes to in the turn in which it goes for
candidates. -/
theorem Run.total_eq (hr : Run w past) {u u' : World S} (hm : (u, u') ∈ moves w past)
    (htries : Tries n t u u') {M : Type} [AddMonoid M] {amount : World S → World S → M}
    (hzero : ∀ v v', ¬Tries n t v v' → amount v v' = 0) : total amount w past = amount u u' := by
  classical
  have hone : (moves w past).countP (fun m => Tries n t m.1 m.2) ≤ 1 := by
    simpa [times] using hr.tries_le_one n t
  exact sum_map_of_countP_le_one hone (fun m _ => hzero m.1 m.2) hm htries

/-! ## The bounds -/

/-- The acquire of ticket `t` at pool `n` is limited in its effort over a whole run. -/
structure Limited (n t limit : Nat) (w : World S) (past : List (World S)) : Prop where
  once : times (Tries n t) w past = 1
  examined : total (fun v v' => {r | Examines n t r v v'}.encard) w past ≤ (limit + 1 : Nat)
  asked : total (asked n t) w past ≤ limit + 1
  takenOver : total (fun v v' => {r | TakesOver n t r v v'}.encard) w past ≤ 1

/-- A turn of the acquire of ticket `t` at pool `n`, from world `u` to `u'`, is limited in its
effort. -/
structure LimitedTurn (n t limit : Nat) (u u' w : World S) : Prop where
  /-- The backend is called about one connection for each candidate. -/
  talks : ∃ conns : List Nat, conns.length ≤ limit + 1 ∧ u.env.TalksTo n conns u'.env
  /-- With the first candidate that it discards the acquire comes to its end, and it is not blocked
  in any later world. -/
  answers : (∃ r, Discards n r u u') → IsOver t u' ∧ ∀ v ∈ w.waiters, v.ticket ≠ t
  exhausted : (∃ k, u'.tickets[t]? = some (.failed (.exhausted k))) ↔
    {r | Discards n r u u'}.encard = (limit + 1 : Nat)
  told : ∀ k, u'.tickets[t]? = some (.failed (.exhausted k)) →
    k = limit + 1 ∧ (u'.tallyOf n).bad = (u.tallyOf n).bad + (limit + 1)

theorem Course.limited (h : Course n t w w' p phase turn p') (ht : TurnOf n t w w')
    (hw : Reachable w) (hs : Section w w') (hn : w.pools[n]? = some p) {v : World S}
    (hlater : Sections w' v) : LimitedTurn n t p.settings.badLimit w w' v := by
  have hw' : Reachable w' := hw.tail hs
  have hdiscards := h.discards ht hw hw' hn
  constructor
  case talks => exact h.talks
  case answers =>
    rintro ⟨r, hr⟩
    obtain ⟨x, hx, hne⟩ : IsOver t w' := Tries.isOver ⟨ht, .inr ⟨r, .inl hr⟩⟩ hw
    exact ⟨⟨x, hx, hne⟩, hw'.queued.over_sections hlater hx hne⟩
  case exhausted => rw [h.exhausted_iff, hdiscards, Nat.cast_inj]
  case told =>
    intro k hk
    rw [h.bad hn, h.exhausted_iff.1 ⟨k, hk⟩]
    exact ⟨h.exhausted_eq hk, rfl⟩

/-- In whatever state an acquire finds its pool, and whatever the backend does: with `limit` the
bad candidates that it puts up with when it goes for the first one, it has `limit + 1` candidates
at most in its whole life, asks for `limit + 1` connections at most, and takes over one checkout at
most. Once it has discarded a candidate it never waits again, and it gives up if and only if it
discards `limit + 1` candidates. -/
theorem effort_bounded (hr : Run w past) {u u' : World S} (hm : (u, u') ∈ moves w past)
    (ht : TurnOf n t u u') (hn : u.pools[n]? = some p) :
    LimitedTurn n t p.settings.badLimit u u' w ∧
      (Tries n t u u' → Limited n t p.settings.badLimit w past) := by
  obtain ⟨hu, hs, hlater⟩ := hr.of_mem_moves hm
  have hu' : Reachable u' := hu.tail hs
  obtain ⟨phase, turn, p', h⟩ := ht.course hu hn
  refine ⟨h.limited ht hu hs hn hlater, fun htries => ?_⟩
  constructor
  case once =>
    classical
    refine Nat.le_antisymm (hr.tries_le_one n t) ?_
    exact List.countP_pos_iff.2 ⟨_, hm, decide_eq_true htries⟩
  case examined =>
    rw [hr.total_eq hm htries fun v v' hno => by rw [examines_of_not_tries hno, Set.encard_empty]]
    exact h.examines ht hu hu' hn
  case asked =>
    rw [hr.total_eq hm htries fun v v' hno => asked_of_not_tries hno, World.asked, if_pos ht]
    have hconnects := h.connects hu hu' hn
    omega
  case takenOver =>
    rw [hr.total_eq hm htries fun v v' hno => by rw [takesOver_of_not_tries hno, Set.encard_empty]]
    exact h.takesOver hn

/-- Every connection to the database is closed as soon as it is opened. The pool puts up with two of
them. -/
def stillborn : World Scripted :=
  runAll {} [
    .create { rest := { closed := true } } {
      settings := { maxActive := 1, maxIdle := 1, badTolerance := 1 }, target := { url := "db" } }]

/-- An acquire opens three of them and gives up. -/
theorem effort_bounded_stillborn :
    ∃ past, let w := stillborn.start 0 none none
      w.tickets[0]? = some (.failed (.exhausted 3)) ∧ (w.env.connectsOf 0).length = 3 ∧
        LimitedTurn 0 0 2 stillborn w w ∧ Limited 0 0 2 w past := by
  obtain ⟨past, hr⟩ := (Reachable.runAll .refl _ : Reachable stillborn).exists_run
  have hfacts : ∃ p ∈ stillborn.pools[0]?, p.settings.badLimit = 2 := by decide +kernel
  obtain ⟨p, hn, hlimit⟩ := hfacts
  have hturn : TurnOf 0 0 stillborn (stillborn.start 0 none none) :=
    .start .ordinary none rfl rfl (by decide +kernel)
  have hs : Section stillborn (stillborn.start 0 none none) :=
    .start 0 .ordinary (by decide +kernel) rfl
  obtain ⟨hlimited, hlife⟩ := effort_bounded (hr.next hs) (List.mem_cons_self ..) hturn hn
  rw [hlimit] at hlimited hlife
  have hcalls : (stillborn.start 0 none none).env.calls.length ≠ stillborn.env.calls.length := by
    decide +kernel
  refine ⟨_, by decide +kernel, by decide +kernel, hlimited, hlife ⟨hturn, .inl fun heq => ?_⟩⟩
  exact hcalls (congrArg List.length heq)

end World

end ConnPool
