import ConnPool.Proofs.Pool.Judged
import ConnPool.Proofs.Pool.Sifting

/-!
# Going through the idle list

An acquire takes the idle connections from the front of the list, one after the other, until one is
usable. Each is judged in the scene that the rejection of the one before it has left behind
(`PassesOver`), so which of them is the first to be usable is not known beforehand, but is
determined by what they answer.

* `exists_passesOver`: the bad connections at the front of the list are passed over.
* `PassesOver.passedOver`: those are retired, seen off and counted, and nothing else happens.
* `PassesOver.search`: a search goes on where they are passed over, with as many bad candidates
  more.
* `Seeks.sifts_none`: an acquire that has a place in the pool neither waits nor takes a checkout
  over.

**Theorem (`search_fetches`).** A search that may meet as many bad candidates as there are idle
connections ends with the first usable one, or goes on to open a connection.
-/

namespace ConnPool

open Pool

namespace Pool

variable {S : Type} {r t : Ref} {rest bad : List Ref} {s s₁ s₂ : Scene S}

/-! ## One idle connection -/

/-- The scene in which the oldest idle connection is judged: it was taken off the list. -/
def pulled (r : Ref) (rest : List Ref) (s : Scene S) : Scene S :=
  { s with
    env := s.env.note (.idleTaken (s.pool.handle r).raw.id)
    pool := { s.pool with idle := rest } }

/-- Handing out changes the data of a handle and nothing else of it. -/
theorem part_handedOut {α : Type} (part : Handle → α) (p : Pool) (a : Acquire) (r t : Ref)
    (now : Instant) (hpart : ∀ h data, part { h with data } = part h) :
    part ((p.handedOut a r now).handle t) = part (p.handle t) := by
  have hsame := part_withHandle part p r t
    (f := fun h => { h with data := h.data.checkOut (p.target.withLogin a.login).endpoint now })
    fun h => hpart h _
  exact hsame

variable [Backend S]

/-- The scene after a candidate was judged and rejected. -/
def passed (r : Ref) (s : Scene S) : Scene S := (reject r (isFit r s).2).2

theorem passed_chats (r : Ref) (s : Scene S) :
    Scene.Chats [s.pool.connOf r] { s with pool := s.pool.rejected r } (passed r s) := by
  have hfit := (isFit_judges r s).1
  have hreject := reject_chats r (isFit r s).2
  have hconn : (isFit r s).2.pool.connOf r = s.pool.connOf r := by rw [hfit.pool]
  rw [hconn] at hreject
  exact (hfit.withPool (·.rejected r)).trans hreject

theorem passed_seesOff (r : Ref) (s : Scene S) :
    s.env.SeenOff s.site (s.pool.connOf r) (passed r s).env := by
  have hfit := (isFit_judges r s).1
  have hseen : Ends (reject r) (isFit r s).2 _ := reject_seesOff r (isFit r s).2
  have hconn : (isFit r s).2.pool.connOf r = s.pool.connOf r := by rw [hfit.pool]
  rw [Ends, hfit.site, hconn] at hseen
  exact .after hfit.grows hseen

theorem nextCandidate_idle (login : Option (String × String)) (h : s.pool.idle = r :: rest) :
    nextCandidate login s = (.ok (some r), pulled r rest s) := by
  unfold nextCandidate
  rw [bind_run, look_run]
  dsimp only
  rw [h]
  rfl

/-- What a search does with the oldest idle connection. -/
theorem search_idle (raised : Bool) (tolerated : Nat) (a : Acquire) (ho : s.pool.closed = false)
    (h : s.pool.idle = r :: rest) :
    search raised tolerated a s =
      if (isFit r (pulled r rest s)).1 then
        (.done a (.ok r), (handOut a r (isFit r (pulled r rest s)).2).2)
      else searchOn raised tolerated { a with bad := a.bad + 1 } (passed r (pulled r rest s)) := by
  unfold search
  rw [bind_run, look_run]
  dsimp only
  rw [ho, if_neg Bool.false_ne_true, bind_run, nextCandidate_idle _ h]
  dsimp only
  rw [bind_run]
  split
  · rfl
  · rw [bind_run]
    cases tolerated <;> rfl

/-! ## Bad connections at the front of the list -/

/-- The connections `bad` are at the front of the idle list. Each of them, when its turn comes, is
found not usable, and is rejected before the next one is judged. -/
inductive PassesOver : List Ref → Scene S → Scene S → Prop
  | stop (s : Scene S) : PassesOver [] s s
  | next {r : Ref} {rest bad : List Ref} {s s' : Scene S} (hr : s.pool.idle = r :: rest)
      (hbad : ¬Usable r (pulled r rest s)) (h : PassesOver bad (passed r (pulled r rest s)) s') :
      PassesOver (r :: bad) s s'

/-- Those that come before the first usable one are passed over. -/
theorem exists_passesOver (s : Scene S) :
    ∃ bad s₁, PassesOver bad s s₁ ∧
      (s₁.pool.idle = [] ∨ ∃ r rest, s₁.pool.idle = r :: rest ∧ Usable r (pulled r rest s₁)) := by
  generalize hq : s.pool.idle = q
  induction q generalizing s with
  | nil => exact ⟨[], s, .stop s, .inl hq⟩
  | cons r rest ih =>
    by_cases husable : Usable r (pulled r rest s)
    · exact ⟨[], s, .stop s, .inr ⟨r, rest, hq, husable⟩⟩
    · have hrest : (passed r (pulled r rest s)).pool.idle = rest := by
        rw [(passed_chats r (pulled r rest s)).pool]
        rfl
      obtain ⟨bad, s₁, h, hend⟩ := ih (passed r (pulled r rest s)) hrest
      exact ⟨r :: bad, s₁, .next hq husable h, hend⟩

/-- Between two scenes the connections `bad` were taken off the idle list, retired, counted and
told to close, unless they said that they are closed. Nothing else changed, and nobody else was
called. -/
structure PassedOver (bad : List Ref) (s s₁ : Scene S) : Prop where
  site : s₁.site = s.site
  idle : s.pool.idle = bad ++ s₁.pool.idle
  pool : s₁.pool = { s.pool with
    idle := s₁.pool.idle
    tally := { s.pool.tally with bad := s.pool.tally.bad + bad.length }
    handles := (s.pool.retireAll .invalid bad).handles }
  later : s.env.Later s.site (bad.map s.pool.connOf) s₁.env
  seenOff : ∀ r ∈ bad, s.env.SeenOff s.site (s.pool.connOf r) s₁.env

namespace PassedOver

omit [Backend S] in
theorem handle_of_mem (h : PassedOver bad s s₁) (ht : t ∈ bad) (hlt : t < s.pool.handles.length) :
    s₁.pool.handle t = (s.pool.handle t).retire .invalid := by
  rw [h.pool]
  exact handle_retireAll_of_mem ht hlt

omit [Backend S] in
theorem handle_of_notMem (h : PassedOver bad s s₁) (ht : t ∉ bad) :
    s₁.pool.handle t = s.pool.handle t := by
  rw [h.pool]
  exact handle_retireAll_of_notMem ht

omit [Backend S] in
theorem raw (h : PassedOver bad s s₁) (t : Ref) :
    (s₁.pool.handle t).raw = (s.pool.handle t).raw := by
  rw [h.pool]
  exact part_retireAll Handle.raw s.pool bad t fun _ => rfl

end PassedOver

theorem PassesOver.passedOver (h : PassesOver bad s s₁) : PassedOver bad s s₁ := by
  induction h with
  | stop s =>
    exact ⟨rfl, rfl, rfl, .refl _ _ _, fun r hr => absurd hr List.not_mem_nil⟩
  | @next r rest bad s s' hr hbad h ih =>
    have hpassed := passed_chats r (pulled r rest s)
    have hseen := passed_seesOff r (pulled r rest s)
    generalize passed r (pulled r rest s) = s₂ at hpassed hseen ih
    have hsite : s₂.site = s.site := hpassed.site
    have hconn : ∀ t, s₂.pool.connOf t = s.pool.connOf t := fun t => by
      rw [hpassed.pool]
      exact connOf_withHandle_retire _ r t .invalid
    have hlater : s.env.Later s.site [s.pool.connOf r] s₂.env :=
      (s.env.later_note _ _ _).trans hpassed.env
    have hmap : bad.map s₂.pool.connOf = bad.map s.pool.connOf :=
      List.map_congr_left fun t _ => hconn t
    have hlast := ih.later
    rw [hsite, hmap] at hlast
    constructor
    case site => exact ih.site.trans hsite
    case idle =>
      have hidle := ih.idle
      rw [hpassed.pool] at hidle
      change rest = bad ++ s'.pool.idle at hidle
      rw [hr, hidle, List.cons_append]
    case pool =>
      have hhandles : (s₂.pool.retireAll .invalid bad).handles =
          ((s.pool.withHandle r (·.retire .invalid)).retireAll .invalid bad).handles := by
        refine handles_retireAll ?_ .invalid bad
        rw [hpassed.pool]
        rfl
      have hcount : s.pool.tally.bad + 1 + bad.length = s.pool.tally.bad + (bad.length + 1) := by
        omega
      rw [ih.pool, hhandles, hpassed.pool, List.length_cons, ← hcount]
      rfl
    case later =>
      exact (hlater.mono (by simp)).trans (hlast.mono fun c hc => List.mem_cons_of_mem _ hc)
    case seenOff =>
      intro t ht
      rcases List.mem_cons.1 ht with rfl | ht
      · exact .before (.after ((Env.Grows.refl _).note _) hseen) hlast.grows
      · have h := ih.seenOff t ht
        rw [hsite, hconn] at h
        exact .after hlater.grows h

/-- A search goes on where the bad connections are passed over, and has met as many more. -/
theorem PassesOver.search (h : PassesOver bad s s₁) (raised : Bool) {tolerated : Nat} {a : Acquire}
    (ho : s.pool.closed = false) (hcount : bad.length ≤ tolerated) :
    Pool.search raised tolerated a s =
      Pool.search raised (tolerated - bad.length) { a with bad := a.bad + bad.length } s₁ := by
  induction h generalizing tolerated a with
  | stop s => rfl
  | @next r rest bad s s' hr hbad h ih =>
    have hopen : (passed r (pulled r rest s)).pool.closed = false := by
      rw [(passed_chats r (pulled r rest s)).pool]
      exact ho
    cases tolerated with
    | zero => exact absurd hcount (Nat.not_succ_le_zero _)
    | succ tolerated =>
      have hsum : a.bad + 1 + bad.length = a.bad + (bad.length + 1) := by omega
      rw [search_idle raised _ a ho hr, if_neg (mt (isFit_iff r _).1 hbad), List.length_cons,
        Nat.add_sub_add_right, ← hsum]
      exact ih hopen (Nat.le_of_succ_le_succ hcount)

/-- To pass over connections is to take the steps of a turn. -/
theorem PassesOver.seeks (h : PassesOver bad s s₁) (raised : Bool) {a : Acquire}
    (ho : s.pool.closed = false) (hcount : a.bad + bad.length ≤ s.pool.settings.badLimit) :
    Seeks s.site raised (s.stage (.seeking a))
      (s₁.stage (.seeking { a with bad := a.bad + bad.length })) := by
  induction h generalizing a with
  | stop s => exact .refl
  | @next r rest bad s s' hr hbad h ih =>
    have hpassed := passed_chats r (pulled r rest s)
    have hseen := passed_seesOff r (pulled r rest s)
    generalize passed r (pulled r rest s) = s₂ at hpassed hseen ih
    have hsum : a.bad + 1 + bad.length = a.bad + (bad.length + 1) := by omega
    rw [List.length_cons, ← hsum] at hcount ⊢
    have hset : s₂.pool.settings = s.pool.settings := by
      rw [hpassed.pool]
      rfl
    have hrest := ih (a := { a with bad := a.bad + 1 }) (by rw [hpassed.pool]; exact ho)
      (by rw [hset]; exact hcount)
    rw [hpassed.site] at hrest
    refine .head (.takeIdle ho hr) (.head ?_ hrest)
    rw [Scene.stage, hpassed.pool]
    exact .reject (Nat.lt_of_lt_of_le (by omega) hcount) hpassed.env hseen

end Pool

/-! ## A place in the pool -/

section

variable {n : Nat} {raised : Bool} {g g' : Stage}

/-- An acquire that has a place in the pool takes no checkout over. -/
theorem Seeks.sifts_none (hs : Seeks n raised g g') (h : g.Sifting)
    (ho : Owned g.env g.pool (g.pool.live g.phase.hand)) : g.Sifts none g' := by
  suffices hall : Owned g'.env g'.pool (g'.pool.live g'.phase.hand) ∧ g.Sifts none g' from hall.2
  have hhanded : g.phase.handed = [] := by
    rcases h.phase with ⟨a, ha⟩ | ⟨a, r, ha⟩ <;> rw [ha] <;> rfl
  induction hs with
  | refl =>
    refine ⟨ho, .inl h, ?_, nofun, fun r hr => .inl hr, nofun⟩
    rw [hhanded]
    exact List.append_nil _
  | tail _ st ih => exact ⟨ih.1.seek st, ih.2.next st ih.1⟩

theorem Seeks.handle_of_retired (hs : Seeks n raised g g')
    (ho : Owned g.env g.pool (g.pool.live g.phase.hand)) {r : Ref} (hr : g.pool.Retired r) :
    g'.pool.handle r = g.pool.handle r := by
  suffices hall : Owned g'.env g'.pool (g'.pool.live g'.phase.hand) ∧
      g'.pool.handle r = g.pool.handle r from hall.2
  induction hs with
  | refl => exact ⟨ho, rfl⟩
  | @tail g₁ g₂ hs st ih =>
    obtain ⟨ho₁, hsame⟩ := ih
    have hretired : g₁.pool.Retired r :=
      ⟨Nat.lt_of_lt_of_le hr.1 (Seeks.grown hs).length, by rw [hsame]; exact hr.2⟩
    exact ⟨ho₁.seek st, (st.handle_of_retired ho₁ hretired).trans hsame⟩

theorem Seeks.attempts_le (hs : Seeks n raised g g') : g.pool.attempts ≤ g'.pool.attempts := by
  induction hs with
  | refl => exact Nat.le_refl _
  | tail _ st ih =>
    rcases st.connects with ⟨-, hsame⟩ | ⟨-, hnext⟩
    · exact hsame.symm ▸ ih
    · exact hnext.symm ▸ Nat.le_succ_of_le ih

/-- Where there is room and no idle connection, the first thing that an acquire does is to ask for a
new one. -/
theorem Seeks.opens {e : Env} {p : Pool} {a : Acquire}
    (hs : Seeks n raised ⟨e, p, .seeking a⟩ g') (hended : ∃ turn, g'.phase = .ended turn)
    (h : p.HasRoom) : p.attempts < g'.pool.attempts ∧ ∃ outcome e₁,
      e.Opens n (p.attempts + 1) (p.target.withLogin a.login) outcome e₁ ∧ e₁.Grows g'.env := by
  obtain ⟨turn, hended⟩ := hended
  rcases Relation.ReflTransGen.cases_head hs with heq | ⟨g₁, st, hrest⟩
  · rw [← heq] at hended
    exact nomatch hended
  · have hgrows := Seeks.grows hrest
    have hattempts := Seeks.attempts_le hrest
    have hroom := h.room
    cases st with
    | shut hc => exact absurd (h.isOpen.symm.trans hc) Bool.false_ne_true
    | takeIdle _ hi => exact nomatch h.idle.symm.trans hi
    | refused _ he => exact ⟨hattempts, _, _, he, hgrows⟩
    | openNew _ he =>
      refine ⟨hattempts, _, _, he, Env.Grows.trans ?_ hgrows⟩
      exact ⟨Nat.le_refl _, Nat.le_succ _, List.suffix_refl _⟩
    | takeOver _ _ hf => exact absurd hf (Nat.not_le_of_lt hroom)
    | interrupted hp | timeOut hp | sleep hp => exact absurd hp.full (Nat.not_le_of_lt hroom)

/-- The acquire `a` opened connections in pool `p`, and took what came of that. -/
structure OpensAnew (n : Nat) (a : Acquire) (e : Env) (p : Pool) (turn : Turn) (e' : Env)
    (p' : Pool) : Prop where
  opens : ∃ outcome e₁,
    e.Opens n (p.attempts + 1) (p.target.withLogin a.login) outcome e₁ ∧ e₁.Grows e'
  attempts : p.attempts < p'.attempts
  idle : p'.idle = []
  active : p'.active = p.active ++ turn.handed
  tried : turn.inVain = false
  claimed : p'.tally.claimed = p.tally.claimed
  waits : p'.tally.waits = p.tally.waits
  retired : ∀ r, p.Retired r → p'.handle r = p.handle r

/-- In a pool that has room and no idle connection an acquire opens new ones. -/
theorem Seeks.opensAnew {e e' : Env} {p p' : Pool} {a : Acquire} {turn : Turn}
    (hs : Seeks n raised ⟨e, p, .seeking a⟩ ⟨e', p', .ended turn⟩) (h : p.HasRoom)
    (ho : Owned e p (p.live none)) : OpensAnew n a e p turn e' p' := by
  have hsifting : Stage.Sifting ⟨e, p, .seeking a⟩ :=
    ⟨.inl ⟨a, rfl⟩, h.isOpen, by simpa [h.idle] using h.room⟩
  have hsifts := hs.sifts_none hsifting ho
  have hactive : p'.active = p.active ++ turn.handed := hsifts.active.symm
  have htried : turn.inVain = false := by
    rcases hsifts.phase with ⟨⟨b, hb⟩ | ⟨b, r, hb⟩, -, -⟩ | ⟨other, hother, htried⟩
    · exact nomatch hb
    · exact nomatch hb
    · cases hother
      exact htried
  obtain ⟨hattempts, hopens⟩ := hs.opens ⟨turn, rfl⟩ h
  have hbalanced := hs.balanced
  constructor
  case opens => exact hopens
  case attempts => exact hattempts
  case idle =>
    have hsuffix : p'.idle <:+ p.idle := hs.idle
    rwa [h.idle, List.suffix_nil] at hsuffix
  case active => exact hactive
  case tried => exact htried
  case claimed =>
    have hclaimed : p'.tally.claimed + p'.active.length + 0 =
        p.tally.claimed + p.active.length + turn.handed.length := hbalanced.claimed
    rw [hactive, List.length_append] at hclaimed
    omega
  case waits =>
    -- The acquire is not counted anew, because it ends with a candidate.
    have hcounted : (Phase.ended turn).acquire.waitCounted = a.waitCounted := by
      have hwaited := hs.waited trivial trivial
      have hfound : ¬Stage.FoundNothing ⟨e', p', .ended turn⟩ := by
        rintro ⟨other, hother, hunserved, -⟩
        cases hother
        have hvain : turn.inVain = turn.isUnserved := by
          rcases turn with ⟨b, error | r⟩ | ⟨b, d⟩
          · cases error <;> first | rfl | exact nomatch htried
          · rfl
          · rfl
        exact Bool.false_ne_true (htried.symm.trans (hvain.trans hunserved))
      rw [or_iff_left hfound] at hwaited
      exact Bool.eq_iff_iff.2 hwaited
    have hwaits : p'.tally.waits + a.waitCounted.toNat =
        p.tally.waits + (Phase.ended turn).acquire.waitCounted.toNat := hbalanced.waits
    rw [hcounted] at hwaits
    omega
  case retired => exact fun r hr => hs.handle_of_retired ho hr

end

/-! ## Searches -/

namespace Pool

variable {S : Type} [Backend S]

/-- How a search ends that starts in scene `s` with idle connections. -/
inductive Fetches (raised : Bool) (a : Acquire) (s : Scene S) (turn : Turn) (s' : Scene S) : Prop
  /-- With the first usable one. -/
  | reuses {bad : List Ref} {r : Ref} {rest : List Ref} {s₁ : Scene S} (h : PassesOver bad s s₁)
      (hr : s₁.pool.idle = r :: rest) (husable : Usable r (pulled r rest s₁))
      (hturn : turn = .done { a with bad := a.bad + bad.length } (.ok r))
      (hs' : s' = (handOut { a with bad := a.bad + bad.length } r
        (isFit r (pulled r rest s₁)).2).2)
  /-- With what comes of new ones, because none is usable. -/
  | opens {s₁ : Scene S} (h : PassesOver s.pool.idle s s₁) (hidle : s₁.pool.idle = [])
      (hsite : s'.site = s.site)
      (hs : Seeks s.site raised
        (s₁.stage (.seeking { a with bad := a.bad + s.pool.idle.length }))
        (s'.stage (.ended turn)))

theorem search_fetches (raised : Bool) {tolerated : Nat} {a : Acquire} {s : Scene S}
    (ho : s.pool.closed = false) (hcount : s.pool.idle.length ≤ tolerated)
    (ht : tolerated = s.pool.settings.badLimit - a.bad) :
    Ends (search raised tolerated a) s (Fetches raised a s) := by
  obtain ⟨bad, s₁, h, hend⟩ := exists_passesOver s
  have hpassed := h.passedOver
  have hlen : bad.length ≤ tolerated := by
    refine Nat.le_trans ?_ hcount
    rw [hpassed.idle, List.length_append]
    exact Nat.le_add_right _ _
  have hopen : s₁.pool.closed = false := by
    rw [hpassed.pool]
    exact ho
  rw [Ends, h.search raised ho hlen]
  rcases hend with hnone | ⟨r, rest, hr, husable⟩
  · obtain rfl : s.pool.idle = bad := by
      rw [hpassed.idle, hnone, List.append_nil]
    have hset : s₁.pool.settings = s.pool.settings := by rw [hpassed.pool]
    obtain ⟨hsite, hs⟩ := search_turns s.site raised (tolerated - s.pool.idle.length)
      { a with bad := a.bad + s.pool.idle.length } s₁ hpassed.site
      (by rw [hset, ht, Nat.sub_sub])
    exact .opens h hnone hsite hs
  · rw [search_idle raised _ _ hopen hr, if_pos ((isFit_iff r _).2 husable)]
    exact .reuses h hr husable rfl rfl

end Pool

end ConnPool
