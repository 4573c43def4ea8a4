import ConnPool.Proofs.Pool.Remembered
import ConnPool.Proofs.World.IdleOrder
import ConnPool.Proofs.World.Wrapped

/-!
# Metadata follows the connection

What a handle remembers of its raw connection was copied from the handle before it, in an acquire
that took the connection over or in a return. It is compared here with what happened in a run: when
the connection was wrapped (`Wrapped`), and when acquires ended with it (`handOuts`).

* `Run.length_handOuts`: a connection was handed out as often as acquires ended with it.
* `Section.comes`: where the handles in the lists of a pool come from in a critical section.
* `Run.remembers`: what they remember, by induction over a run.

**Theorem (`metadata_follows_connection`).** A handle in the lists of a pool knows the history of
its raw connection, whichever handles the connection has been through.
-/

namespace ConnPool

open Pool

namespace World

variable {S : Type}

/-! ## Hand-outs -/

/-- The handles with which acquires of pool `n` ended in a critical section. -/
def handed (n : Nat) (w w' : World S) : List Ref := (w'.lent n).filter (· ∉ w.lent n)

/-- The connection that a handle of pool `n` is around. -/
def around? (w : World S) (n : Nat) (r : Ref) : Option Nat := w.pools[n]?.map (·.connOf r)

/-- The times at which connection `conn` of pool `n` was handed out in a critical section: its end,
for each acquire that ended with the connection. -/
def handedOutIn (n conn : Nat) (w w' : World S) : List Instant :=
  ((handed n w w').filter fun r => w'.around? n r = some conn).map fun _ => w'.env.now

/-- The times at which connection `conn` of pool `n` was handed out in a run, latest first. -/
def handOuts (n conn : Nat) (w : World S) (past : List (World S)) : List Instant :=
  (moves w past).flatMap fun m => handedOutIn n conn m.1 m.2

variable {w w' : World S} {n t conn : Nat} {p p' : Pool} {r : Ref} {past : List (World S)}

theorem around?_eq (hn : w.pools[n]? = some p) (r : Ref) : w.around? n r = some (p.connOf r) := by
  rw [around?, hn]
  rfl

theorem mem_handed : r ∈ handed n w w' ↔ r ∈ w'.lent n ∧ r ∉ w.lent n := by
  simp only [handed, List.mem_filter, decide_eq_true_eq]

theorem handOuts_next (n conn : Nat) (w w' : World S) (past : List (World S)) :
    handOuts n conn w' (w :: past) = handedOutIn n conn w w' ++ handOuts n conn w past :=
  List.flatMap_cons ..

/-- A connection is handed out under a handle that is around it. -/
theorem handedOutIn_eq_nil (hn : w'.pools[n]? = some p')
    (h : ∀ r ∈ handed n w w', p'.connOf r ≠ conn) : handedOutIn n conn w w' = [] := by
  have hnone : (handed n w w').filter (fun r => w'.around? n r = some conn) = [] := by
    refine List.filter_eq_nil_iff.2 fun r hr => ?_
    simp only [around?_eq hn, Option.some.injEq, decide_eq_true_eq]
    exact h r hr
  rw [handedOutIn, hnone]
  rfl

theorem handedOutIn_self (hn : w'.pools[n]? = some p') (h : handed n w w' = [r]) :
    handedOutIn n (p'.connOf r) w w' = [w'.env.now] := by
  rw [handedOutIn, h, List.filter_singleton, around?_eq hn]
  simp

variable [Bench S]

theorem Turned.handed_eq {phase : Phase} {turn : Turn} (h : Turned n t w w' p phase turn p')
    (hw : Reachable w) (hn : w.pools[n]? = some p) : World.handed n w w' = turn.handed := by
  have hperm : (World.handed n w w').Perm turn.handed := by
    have hnew : turn.handed.filter (· ∉ w.lent n) = turn.handed :=
      List.filter_eq_self.2 fun r hr => by simpa using (h.handed hw hn hr).2
    have hfilter := h.lent.filter (· ∉ w.lent n)
    rwa [List.filter_append, hnew, filter_notMem_of_subset (List.Subset.refl _),
      List.append_nil] at hfilter
  rcases turn with ⟨a, e | r⟩ | ⟨a, d⟩
  · exact List.perm_nil.1 hperm
  · exact List.perm_singleton.1 hperm
  · exact List.perm_nil.1 hperm

/-- What is handed out is checked out then. -/
theorem Section.active_of_handed (hs : Section w w') (hw : Reachable w) (hr : r ∈ handed n w w') :
    Active n r w' := by
  obtain ⟨hnew, hold⟩ := mem_handed.1 hr
  exact (hs.enters hw fun h => hold (hw.lent_of_active h)).2 ⟨hold, hnew⟩

/-- A handle that an acquire ended with stays around its connection. -/
theorem Section.around?_eq (hs : Section w w') (hw : Reachable w) (hr : r ∈ w.lent n) :
    w'.around? n r = w.around? n r := by
  obtain ⟨t, ht⟩ := mem_lent.1 hr
  obtain ⟨p, hn, hlt, -⟩ := hw.owners.given t n r ht
  obtain ⟨p', hn', hgrown⟩ := hs.grown hn
  rw [World.around?_eq hn, World.around?_eq hn', connOf, connOf, hgrown.raw r hlt]

/-- The acquires that ended before a critical section and in it are those that ended up to now. -/
theorem Section.lent_perm (hs : Section w w') (hw : Reachable w) (n : Nat) :
    (w'.lent n).Perm (handed n w w' ++ w.lent n) := by
  have hw' : Reachable w' := hw.tail hs
  have hold : ((w'.lent n).filter (· ∈ w.lent n)).Perm (w.lent n) := by
    refine (List.perm_ext_iff_of_nodup ((hw'.nodup_lent n).filter _)
      (hw.nodup_lent n)).2 fun r => ?_
    rw [List.mem_filter, decide_eq_true_eq]
    exact and_iff_right_of_imp fun hr => hs.lent_subset hw hr
  have hsplit := List.filter_append_perm (· ∈ w.lent n) (w'.lent n)
  have hhanded : (w'.lent n).filter (fun r => !decide (r ∈ w.lent n)) = handed n w w' := by
    simp only [handed, decide_not]
  rw [hhanded] at hsplit
  exact hsplit.symm.trans ((hold.append_right _).trans List.perm_append_comm)

/-- A connection was handed out as often as acquires ended with a handle around it. -/
theorem Run.length_handOuts (hr : Run w past) (n conn : Nat) :
    (handOuts n conn w past).length =
      (w.lent n).countP fun r => w.around? n r = some conn := by
  induction hr with
  | start => rfl
  | @next w w' past hr hs ih =>
    have hsame : (w.lent n).countP (fun r => w'.around? n r = some conn) =
        (w.lent n).countP fun r => w.around? n r = some conn := by
      refine List.countP_congr fun r hlent => ?_
      rw [hs.around?_eq hr.reachable hlent]
    calc (handOuts n conn w' (w :: past)).length
        = (handedOutIn n conn w w').length + (handOuts n conn w past).length := by
          rw [handOuts_next, List.length_append]
      _ = (handed n w w').countP (fun r => w'.around? n r = some conn) +
            (w.lent n).countP (fun r => w'.around? n r = some conn) := by
          rw [handedOutIn, List.length_map, ← List.countP_eq_length_filter, ih, hsame]
      _ = (w'.lent n).countP fun r => w'.around? n r = some conn := by
          rw [← List.countP_append, (hs.lent_perm hr.reachable n).countP_eq]

/-- No connection was handed out that was not asked for. -/
theorem Run.handOuts_eq_nil (hr : Run w past) (hn : w.pools[n]? = some p)
    (hconn : p.attempts < conn) : handOuts n conn w past = [] := by
  refine List.length_eq_zero_iff.1 ?_
  rw [hr.length_handOuts, List.countP_eq_zero]
  intro r hlent
  obtain ⟨t, ht⟩ := mem_lent.1 hlent
  obtain ⟨q, hq, hlt, -⟩ := hr.reachable.owners.given t n r ht
  obtain rfl : p = q := Option.some.inj (hn.symm.trans hq)
  have hle : p.connOf r ≤ p.attempts := (hr.reachable.owners.owned n p hn).conn_le r hlt
  simp only [World.around?_eq hn, Option.some.injEq, decide_eq_true_eq]
  omega

/-! ## Where handles come from -/

/-- Where a handle in the lists of pool `n` comes from in a critical section. -/
inductive Comes (n : Nat) (w w' : World S) (p p' : Pool) (r : Ref) : Prop
  /-- It was in the same list before, and is as it was. -/
  | stays (hactive : r ∈ p'.active → r ∈ p.active) (hidle : r ∈ p'.idle → r ∈ p.idle)
      (hin : r ∈ p.live none) (h : p'.handle r = p.handle r) (hnew : r ∉ handed n w w')
  /-- It is the next one of a connection that was returned. -/
  | rests (s : Ref) (id : Nat) (hs : s ∈ p.active) (hout : r ∉ p'.active)
      (h : p'.handle r = ⟨(p.handle s).raw, true, ((p.handle s).data.renew id).rest⟩)
      (hnew : r ∉ handed n w w')
  /-- An acquire ended with it. -/
  | handsOut (x : Handle) (endpoint : Endpoint) (hx : p.Fosters w'.env.now x) (hout : r ∉ p'.idle)
      (h : p'.handle r = { x with data := x.data.checkOut endpoint w'.env.now })
      (hnew : handed n w w' = [r])

theorem Turned.comes {phase : Phase} {turn : Turn} (h : Turned n t w w' p phase turn p')
    (hw : Reachable w) (hs : Section w w') (hn : w.pools[n]? = some p) (hr : r ∈ p'.live none) :
    Comes n w w' p p' r := by
  obtain ⟨raised, hseeks⟩ := h.seeks
  have hw' : Reachable w' := hw.tail hs
  have ho : Owned w.env p (p.live phase.hand) := h.starts.hand ▸ hw.owners.owned n p hn
  have hhanded := h.handed_eq hw hn
  by_cases hnew : r ∈ turn.handed
  · obtain ⟨a, rfl⟩ : ∃ a, turn = .done a (.ok r) := by
      rcases turn with ⟨a, e | s⟩ | ⟨a, d⟩
      · exact nomatch hnew
      · exact ⟨a, by rw [List.mem_singleton.1 hnew]⟩
      · exact nomatch hnew
    obtain ⟨x, endpoint, hx, hhandle⟩ := hseeks.handsOut h.starts ho
    have hactive := (h.handed hw hn hnew).1
    exact .handsOut x endpoint hx ((hw'.owners.owned n p' h.after).notMem_idle hactive) hhandle
      hhanded
  · obtain ⟨hin, hsame⟩ := hseeks.handle_same ho hr hnew
    refine .stays (fun hr => ?_) (fun hr => hseeks.idle.subset hr) hin hsame (hhanded ▸ hnew)
    exact (hseeks.mem_active hr).resolve_right hnew

/-- In a critical section without a turn nothing is handed out. -/
theorem Section.comes_of_quiet (hs : Section w w') (hw : Reachable w) (hn : w.pools[n]? = some p)
    (hn' : w'.pools[n]? = some p') (hno : ¬HasTurn n w w') (hr : r ∈ p'.live none) :
    Comes n w w' p p' r := by
  have hw' : Reachable w' := hw.tail hs
  have ho := hw.owners.owned n p hn
  have ho' := hw'.owners.owned n p' hn'
  obtain ⟨site, hsite, rfl⟩ := exists_site_of_pools hn
  obtain ⟨q, hquiet⟩ := hs.quiet hw hn hno
  have hnew : r ∉ handed n w w' := by
    rw [handed, hquiet.lent, filter_notMem_of_subset (List.Subset.refl _)]
    exact List.not_mem_nil
  obtain ⟨site', hsite', hyields⟩ := hs.yields hw hsite hno
  obtain rfl : site'.pool = p' := Option.some.inj ((pools_getElem? hsite').symm.trans hn')
  rcases hyields with heq | ⟨who, hgives, hy⟩
  · have hpool : site'.pool = site.pool := heq
    rw [hpool] at hr ⊢
    exact .stays id id hr rfl hnew
  · have hidle : ∀ s, who = .release s → s ∉ site.pool.idle := by
      rintro s rfl
      cases hgives with
      | release t _ handle hh =>
        exact (hw.owners.lt_and_notMem_idle hn (held?_eq_some hh).1).2
    have hlasts : site.pool.Lasts site'.pool := hy.lasts ho
    rcases mem_live_none.1 hr with hr | hr
    · refine .stays (fun hr => hlasts.sub.subset hr) (fun h => ?_)
        (mem_live_of_active (hlasts.sub.subset hr)) (hlasts.same r hr) hnew
      exact absurd h (ho'.notMem_idle hr)
    · have hout : r ∉ site'.pool.active := fun h => ho'.notMem_idle h hr
      rcases hy.rests ho hidle hr with ⟨hin, hsame⟩ | ⟨s, hs, id, hrests⟩
      · exact .stays (fun h => absurd h hout) (fun _ => hin) (mem_live_of_idle hin) hsame hnew
      · exact .rests s id hs hout hrests hnew

theorem Section.comes (hs : Section w w') (hw : Reachable w) (hn : w.pools[n]? = some p)
    (hn' : w'.pools[n]? = some p') (hr : r ∈ p'.live none) : Comes n w w' p p' r := by
  by_cases hturn : HasTurn n w w'
  · obtain ⟨t, ht⟩ := hturn
    obtain ⟨phase, turn, q, h⟩ := ht.turned hw hn
    obtain rfl : q = p' := Option.some.inj (h.after.symm.trans hn')
    exact h.comes hw hs hn hr
  · exact hs.comes_of_quiet hw hn hn' hturn hr

/-! ## What handles remember -/

/-- A handle remembers when its raw connection of pool `n` was handed out in a run, up to some
time. -/
structure Recalls (n : Nat) (w : World S) (past : List (World S)) (now : Instant) (x : Handle) :
    Prop where
  count : x.data.checkoutCount = (handOuts n x.raw.conn w past).length
  latest : x.data.lastUsedAt = (handOuts n x.raw.conn w past).head?.getD x.data.createdAt
  created : x.data.createdAt ≤ x.data.lastUsedAt
  used : x.data.lastUsedAt ≤ now

/-- The handles in the lists of pool `n` remember a run, and know since when they are checked out.
-/
structure Remembers (n : Nat) (w : World S) (past : List (World S)) (p : Pool) : Prop where
  recalls : ∀ r ∈ p.live none, Recalls n w past w.env.now (p.handle r)
  active : ∀ r ∈ p.active, (p.handle r).data.checkoutAt = some (p.handle r).data.lastUsedAt
  idle : ∀ r ∈ p.idle, (p.handle r).data.checkoutAt = none

/-- What an acquire has in hand remembers what happened before its turn. -/
theorem Remembers.fosters (h : Remembers n w past p) (hr : Run w past) (hn : w.pools[n]? = some p)
    {now : Instant} {x : Handle} (hx : p.Fosters now x) (hle : w.env.now ≤ now) :
    Recalls n w past now x := by
  cases hx with
  | idle hr =>
    have hrecalls := h.recalls _ (mem_live_of_idle hr)
    exact { hrecalls with used := Nat.le_trans hrecalls.used hle }
  | renewed hr id =>
    have hrecalls := h.recalls _ (mem_live_of_active hr)
    exact ⟨hrecalls.count, hrecalls.latest, hrecalls.created, Nat.le_trans hrecalls.used hle⟩
  | first id raw endpoint t hnew ht =>
    have hnone := hr.handOuts_eq_nil hn hnew
    exact ⟨by rw [hnone]; rfl, by rw [hnone]; rfl, Nat.le_refl t, ht⟩

/-- What was not handed out in a critical section remembers no more than before. -/
theorem Recalls.same {x : Handle} (h : Recalls n w past w.env.now x) (hs : Section w w')
    (hnone : handedOutIn n x.raw.conn w w' = []) : Recalls n w' (w :: past) w'.env.now x := by
  have hall : handOuts n x.raw.conn w' (w :: past) = handOuts n x.raw.conn w past := by
    rw [handOuts_next, hnone, List.nil_append]
  constructor
  case count => rw [hall]; exact h.count
  case latest => rw [hall]; exact h.latest
  case created => exact h.created
  case used => exact Nat.le_trans h.used hs.shift.grows.now

omit [Bench S] in
/-- What was handed out remembers that. -/
theorem Recalls.handedOut {x : Handle} (h : Recalls n w past w'.env.now x) (endpoint : Endpoint)
    (hone : handedOutIn n x.raw.conn w w' = [w'.env.now]) :
    Recalls n w' (w :: past) w'.env.now
      { x with data := x.data.checkOut endpoint w'.env.now } := by
  have hall : handOuts n x.raw.conn w' (w :: past) =
      w'.env.now :: handOuts n x.raw.conn w past := by
    rw [handOuts_next, hone, List.singleton_append]
  constructor
  case count =>
    show x.data.checkoutCount + 1 = (handOuts n x.raw.conn w' (w :: past)).length
    rw [hall, List.length_cons, h.count]
  case latest =>
    show w'.env.now = (handOuts n x.raw.conn w' (w :: past)).head?.getD x.data.createdAt
    rw [hall]
    rfl
  case created => exact Nat.le_trans h.created h.used
  case used => exact Nat.le_refl _

/-- One critical section more is remembered. -/
theorem Remembers.next (h : Remembers n w past p) (hr : Run w past) (hs : Section w w')
    (hn : w.pools[n]? = some p) (hn' : w'.pools[n]? = some p') :
    Remembers n w' (w :: past) p' := by
  have hw := hr.reachable
  have hw' : Reachable w' := hw.tail hs
  have ho' := hw'.owners.owned n p' hn'
  have hactive : ∀ s ∈ handed n w w', s ∈ p'.active := fun s hs' =>
    (active_iff hn').1 (hs.active_of_handed hw hs')
  -- No other handle in the lists is around a connection that was handed out.
  have hnone : ∀ r ∈ p'.live none, r ∉ handed n w w' → handedOutIn n (p'.connOf r) w w' = [] := by
    intro r hr hnew
    refine handedOutIn_eq_nil hn' fun s hs' heq => hnew ?_
    rwa [← ho'.inj s (mem_live_of_active (hactive s hs')) r hr heq]
  have hcomes : ∀ r ∈ p'.live none, Comes n w w' p p' r := fun r hr => hs.comes hw hn hn' hr
  constructor
  case recalls =>
    intro r hlive
    cases hcomes r hlive with
    | stays _ _ hin hsame hnew =>
      have hnone := hnone r hlive hnew
      rw [connOf, hsame] at hnone
      rw [hsame]
      exact (h.recalls r hin).same hs hnone
    | rests s id hs' _ hrests hnew =>
      have hnone := hnone r hlive hnew
      rw [connOf, hrests] at hnone
      have hsame := (h.recalls s (mem_live_of_active hs')).same hs hnone
      rw [hrests]
      exact ⟨hsame.count, hsame.latest, hsame.created, hsame.used⟩
    | handsOut x endpoint hx _ hout hnew =>
      have hone := handedOutIn_self hn' hnew
      rw [connOf, hout] at hone
      rw [hout]
      exact (h.fosters hr hn hx hs.shift.grows.now).handedOut endpoint hone
  case active =>
    intro r hr
    cases hcomes r (mem_live_of_active hr) with
    | stays hin _ _ hsame =>
      rw [hsame]
      exact h.active r (hin hr)
    | rests _ _ _ hout => exact absurd hr hout
    | handsOut x endpoint _ _ hout =>
      rw [hout]
      rfl
  case idle =>
    intro r hr
    cases hcomes r (mem_live_of_idle hr) with
    | stays _ hin _ hsame =>
      rw [hsame]
      exact h.idle r (hin hr)
    | rests _ _ _ _ hrests =>
      rw [hrests]
      rfl
    | handsOut _ _ _ hout => exact absurd hr hout

/-- What the handles of a pool remember is what happened. -/
theorem Run.remembers (hr : Run w past) (hn : w.pools[n]? = some p) : Remembers n w past p := by
  induction hr generalizing p with
  | start => simp [pools] at hn
  | @next w w' past hr hs ih =>
    cases hold : w.pools[n]? with
    | none =>
      obtain ⟨settings, target, rfl⟩ := (hs.blank hr.reachable hold).2 p hn
      exact ⟨fun _ h => absurd h List.not_mem_nil, fun _ h => absurd h List.not_mem_nil,
        fun _ h => absurd h List.not_mem_nil⟩
    | some q => exact (ih hold).next hr hs hold hn

/-- What handle `r` of pool `n` has on record is the history of its raw connection in a run. -/
structure FollowsConnection (n : Nat) (w : World S) (past : List (World S)) (p : Pool) (r : Ref) :
    Prop where
  /-- The raw connection was wrapped in the run, at the time and under the number that the handle
  has on record. -/
  wrapped : ∃ m ∈ moves w past, Wrapped n (p.handle r).birth m.1 m.2
  /-- It was never wrapped at another time or under another number. -/
  once : ∀ m ∈ moves w past, ∀ b, Wrapped n b m.1 m.2 → b.raw.conn = p.connOf r →
    b = (p.handle r).birth
  number : (p.handle r).data.rawId = (p.handle r).raw.id
  /-- It counts the times at which the connection was handed out. -/
  count : (p.handle r).data.checkoutCount = (handOuts n (p.connOf r) w past).length
  /-- These are the acquires that ended with a handle around it. -/
  acquires : (p.handle r).data.checkoutCount =
    (w.lent n).countP fun s => p.connOf s = p.connOf r
  latest : (p.handle r).data.lastUsedAt =
    (handOuts n (p.connOf r) w past).head?.getD (p.handle r).data.createdAt
  created : (p.handle r).data.createdAt ≤ (p.handle r).data.lastUsedAt
  used : (p.handle r).data.lastUsedAt ≤ w.env.now
  active : r ∈ p.active → (p.handle r).data.checkoutAt = some (p.handle r).data.lastUsedAt
  idle : r ∈ p.idle → (p.handle r).data.checkoutAt = none

/-- The handles in the lists of a pool have the history of their raw connections on record. -/
theorem metadata_follows_connection (hr : Run w past) (hn : w.pools[n]? = some p)
    (hin : r ∈ p.active ∨ r ∈ p.idle) : FollowsConnection n w past p r := by
  have hlive : r ∈ p.live none := mem_live_none.2 hin
  have hremembers := hr.remembers hn
  have hrecalls := hremembers.recalls r hlive
  have hbirths : ∀ b, b ∈ p.births ↔ ∃ m ∈ moves w past, Wrapped n b m.1 m.2 := fun b => by
    rw [← birthsOf_eq hn]
    exact hr.births n b
  have hbirth : (p.handle r).birth ∈ p.births :=
    birth_mem_births ((hr.reachable.owners.owned n p hn).lt hlive)
  have hwrapped := (hbirths _).1 hbirth
  constructor
  case wrapped => exact hwrapped
  case once =>
    intro m hm b hb hconn
    exact hr.reachable.pool births_invariant hn b ((hbirths b).2 ⟨m, hm, hb⟩) _ hbirth hconn
  case number =>
    obtain ⟨m, -, hm⟩ := hwrapped
    exact hm.number_eq
  case count => exact hrecalls.count
  case acquires =>
    rw [hrecalls.count, hr.length_handOuts n]
    simp only [around?_eq hn, Option.some.injEq, connOf]
  case latest => exact hrecalls.latest
  case created => exact hrecalls.created
  case used => exact hrecalls.used
  case active => exact hremembers.active r
  case idle => exact hremembers.idle r

/-- A connection is handed out, returned and handed out again, and is taken over by a third acquire
in the end. -/
def passedAround : World Scripted :=
  runAll {} [
    .create {} { settings := { maxActive := 1, checkoutTimeout := 5 }, target := { url := "db" } },
    .advance 1, .acquire 0 .ordinary false, .advance 1, .act (.release 0), .advance 1,
    .acquire 0 .ordinary false, .advance 9, .acquire 0 .ordinary false]

/-- Its third handle knows of all that. -/
theorem metadata_follows_connection_passedAround :
    ∃ past p, Run passedAround past ∧ passedAround.pools[0]? = some p ∧ 2 ∈ p.active ∧
      (p.handle 2).data.checkoutCount = 3 ∧ (p.handle 2).data.createdAt = 1 ∧
      (p.handle 2).data.lastUsedAt = 12 ∧ FollowsConnection 0 passedAround past p 2 := by
  have hfacts : ∃ p ∈ passedAround.pools[0]?, 2 ∈ p.active ∧
      (p.handle 2).data.checkoutCount = 3 ∧ (p.handle 2).data.createdAt = 1 ∧
      (p.handle 2).data.lastUsedAt = 12 := by decide +kernel
  obtain ⟨p, hn, hactive, hcount, hcreated, hused⟩ := hfacts
  obtain ⟨past, hr⟩ := (Reachable.runAll .refl _ : Reachable passedAround).exists_run
  exact ⟨past, p, hr, hn, hactive, hcount, hcreated, hused,
    metadata_follows_connection hr hn (.inl hactive)⟩

end World

end ConnPool
