import ConnPool.Backend.Scripted
import ConnPool.Proofs.Pool.Reuse
import ConnPool.Proofs.World.Failures
import ConnPool.Proofs.World.IdleOrder

/-!
# Idle connections are reused

What an acquire makes of an idle list depends on the health of the whole list, and the health of a
connection shows when it is judged and not before. Two things keep this simple. The acquire puts up
with as many bad candidates as can be idle, so it comes to the end of the list if none is usable.
And each connection that it takes off the list leaves a place in the pool, so then it opens a new
one, and neither waits nor takes a checkout over.

**Theorem (`idle_reused_in_order`).** Idle connections are handed out oldest return first, but for
those that are not usable by then.
-/

namespace ConnPool

open Pool

namespace World

variable {S : Type} [Bench S] {w w' : World S} {n t : Nat} {site : Site S} {p' : Pool}

/-- The scene that a turn starts from at pool `n`, with the time that acquires have waited there by
now. -/
def entry (w : World S) (n : Nat) (site : Site S) (waited : Span) : Scene S :=
  { w.scene n site with
    pool := { site.pool with tally := { site.pool.tally with waitTime := waited } } }

/-- An acquire that has a turn at pool `n` passes over the idle connections `bad`, and finds itself
in scene `s₁` then. -/
structure WeedsOut (n : Nat) (w : World S) (site : Site S) (bad : List Ref) (s₁ : Scene S) :
    Prop where
  /-- Each one was found not usable when its turn came. -/
  judged : ∃ waited, PassesOver bad (w.entry n site waited) s₁
  idle : site.pool.idle = bad ++ s₁.pool.idle
  retired : ∀ r ∈ bad,
    s₁.pool.handle r = { site.pool.handle r with valid := false, data.state := .invalid }
  /-- Each one was told to close, unless it said that it is closed. -/
  seenOff : ∀ r ∈ bad, w.env.SeenOff n (site.pool.connOf r) s₁.env
  others : ∀ r ∉ bad, s₁.pool.handle r = site.pool.handle r
  tally : s₁.pool.tally = { site.pool.tally with
    bad := site.pool.tally.bad + bad.length, waitTime := s₁.pool.tally.waitTime }
  rest : s₁.pool = { site.pool with
    idle := s₁.pool.idle, tally := s₁.pool.tally, handles := s₁.pool.handles }
  place : s₁.site = n
  /-- Nobody else was called. -/
  later : w.env.Later n (bad.map site.pool.connOf) s₁.env

/-- From scene `s₁` the acquire of ticket `t` ends with the idle connection `r`. -/
structure Reuses (n t : Nat) (s₁ : Scene S) (r : Ref) (rest : List Ref) (w' : World S)
    (site : Site S) (p' : Pool) : Prop where
  idle : s₁.pool.idle = r :: rest
  usable : Usable r (pulled r rest s₁)
  ticket : w'.tickets[t]? = some (.held n r)
  left : p'.idle = rest
  active : p'.active = site.pool.active ++ [r]
  valid : (p'.handle r).valid = true
  raw : (p'.handle r).raw = (site.pool.handle r).raw
  others : ∀ x ≠ r, p'.handle x = s₁.pool.handle x
  bad : p'.tally.bad = s₁.pool.tally.bad
  /-- No connection is asked for, and no checkout is taken over. -/
  attempts : p'.attempts = site.pool.attempts
  claimed : p'.tally.claimed = site.pool.tally.claimed
  later : s₁.env.Later n [site.pool.connOf r] w'.env

/-- From scene `s₁`, in which no idle connection is left, the acquire of ticket `t` goes on to open
new ones. -/
structure OpensNew (n t : Nat) (s₁ : Scene S) (w' : World S) (site : Site S) (p' : Pool) :
    Prop where
  idle : s₁.pool.idle = []
  /-- The next call asks for a connection. -/
  asks : ∃ login outcome,
    ⟨n, site.pool.attempts + 1, .connect (site.pool.target.withLogin login) outcome⟩ ::
      s₁.env.calls <:+ w'.env.calls
  attempts : site.pool.attempts < p'.attempts
  left : p'.idle = []
  /-- The acquire is over. It did not wait, and was not told that it waited too long. -/
  ticket : ∃ x, w'.tickets[t]? = some x ∧
    ((∃ r, x = .held n r ∧ p'.active = site.pool.active ++ [r]) ∨
      ((∃ fault, x = .failed (.factory fault)) ∨ ∃ k, x = .failed (.exhausted k)) ∧
        p'.active = site.pool.active)
  waits : p'.tally.waits = site.pool.tally.waits
  claimed : p'.tally.claimed = site.pool.tally.claimed
  /-- What it passed over stays discarded. -/
  retired : ∀ r ∈ site.pool.idle, p'.handle r = s₁.pool.handle r

/-- How a turn of the acquire of ticket `t` goes at an open pool with idle connections. -/
inductive Fetched (n t : Nat) (w : World S) (site : Site S) (w' : World S) (p' : Pool) : Prop
  /-- The acquire was blocked, and is interrupted before it comes to the list. -/
  | interrupted (v : Waiter) (hv : v ∈ w.waiters) (ht : v.ticket = t)
      (hraised : w.isRaised v.flag = true) (hticket : w'.tickets[t]? = some (.failed .interrupted))
      (hp' : p' = site.pool.roused v.began w.env.now) (hcalls : w'.env.calls = w.env.calls)
  | reuses {bad : List Ref} {r : Ref} {rest : List Ref} {s₁ : Scene S}
      (hbad : WeedsOut n w site bad s₁) (h : Reuses n t s₁ r rest w' site p')
  | opensNew {s₁ : Scene S} (hbad : WeedsOut n w site site.pool.idle s₁)
      (h : OpensNew n t s₁ w' site p')

variable {waited : Span} {bad rest : List Ref} {s₁ s : Scene S} {turn : Turn} {a : Acquire}
  {r : Ref}

/-- What is passed over is discarded. -/
theorem WeedsOut.of_passesOver (hlt : ∀ r ∈ site.pool.idle, r < site.pool.handles.length)
    (h : PassesOver bad (w.entry n site waited) s₁) : WeedsOut n w site bad s₁ := by
  have hpassed := h.passedOver
  have hidle : site.pool.idle = bad ++ s₁.pool.idle := hpassed.idle
  constructor
  case judged => exact ⟨waited, h⟩
  case idle => exact hidle
  case retired =>
    intro r hr
    exact hpassed.handle_of_mem hr (hlt r (hidle ▸ List.mem_append_left _ hr))
  case seenOff => exact hpassed.seenOff
  case others => exact fun r hr => hpassed.handle_of_notMem hr
  case tally =>
    rw [hpassed.pool]
    rfl
  case rest =>
    rw [hpassed.pool]
    rfl
  case place => exact hpassed.site
  case later => exact hpassed.later

theorem WeedsOut.raw (h : WeedsOut n w site bad s₁) (r : Ref) :
    (s₁.pool.handle r).raw = (site.pool.handle r).raw := by
  by_cases hr : r ∈ bad
  · rw [h.retired r hr]
  · rw [h.others r hr]

/-- A usable connection is handed out. -/
theorem Reuses.of_handOut (h : WeedsOut n w site bad s₁) (hr : s₁.pool.idle = r :: rest)
    (husable : Usable r (pulled r rest s₁))
    (hs : s = (handOut a r (isFit r (pulled r rest s₁)).2).2)
    (hended : EndedIn n t w w' site (.done a (.ok r)) s) :
    Reuses n t s₁ r rest w' site s.pool := by
  have hfit := (isFit_judges r (pulled r rest s₁)).1
  have henv : s.env = (isFit r (pulled r rest s₁)).2.env := by
    rw [hs]
    rfl
  have hpool : s.pool =
      (pulled r rest s₁).pool.handedOut a r (isFit r (pulled r rest s₁)).2.env.now := by
    rw [hs, ← hfit.pool]
    rfl
  have hrest := h.rest
  rw [hpool]
  constructor
  case idle => exact hr
  case usable => exact husable
  case ticket => exact hended.ticket
  case left => rfl
  case active =>
    change s₁.pool.active ++ [r] = _
    rw [hrest]
  case valid => exact (part_handedOut Handle.valid _ a r r _ fun _ _ => rfl).trans husable.valid
  case raw => exact (part_handedOut Handle.raw _ a r r _ fun _ _ => rfl).trans (h.raw r)
  case others => exact fun x hx => handle_withHandle_ne (pulled r rest s₁).pool _ hx
  case bad => rfl
  case attempts =>
    change s₁.pool.attempts = _
    rw [hrest]
  case claimed =>
    change s₁.pool.tally.claimed = _
    rw [h.tally]
  case later =>
    have hjudged : (pulled r rest s₁).env.Later s₁.site [s₁.pool.connOf r]
        (isFit r (pulled r rest s₁)).2.env := hfit.env
    rw [h.place, connOf, h.raw] at hjudged
    rw [hended.env, henv]
    exact (s₁.env.later_note _ _ _).trans hjudged

/-- Where none is usable a new one is opened. -/
theorem OpensNew.of_seeks {raised : Bool} (hw : Reachable w) (hn : w.sites[n]? = some site)
    (hopen : site.pool.closed = false) (hidle : site.pool.idle ≠ [])
    (hpasses : PassesOver site.pool.idle (w.entry n site waited) s₁)
    (h : WeedsOut n w site site.pool.idle s₁) (hnone : s₁.pool.idle = [])
    (hlimit : a.bad + site.pool.idle.length ≤ site.pool.settings.badLimit)
    (hs : Seeks n raised
      (s₁.stage (.seeking { a with bad := a.bad + site.pool.idle.length }))
      (s.stage (.ended turn)))
    (hended : EndedIn n t w w' site turn s) : OpensNew n t s₁ w' site s.pool := by
  have hp := pools_getElem? hn
  have ho : Owned w.env (w.entry n site waited).pool ((w.entry n site waited).pool.live none) :=
    (hw.owners.owned n site.pool hp).same (Nat.le_refl _) rfl (Nat.le_refl _)
  have hb := hw.pool bounded_invariant hp
  have hb' : Bounded (w.entry n site waited).pool none := ⟨hb.total, hb.idle⟩
  have hpassing := hpasses.seeks raised (a := a) hopen hlimit
  obtain ⟨ho₁, -⟩ := bounded_invariant.seeks hpassing ho hb'
  have hrest := h.rest
  -- Each connection that was taken off the list left a place.
  have hroom : s₁.pool.HasRoom := by
    have htotal := hb.total
    have hpos := List.length_pos_of_ne_nil hidle
    refine ⟨by rw [hrest]; exact hopen, hnone, ?_⟩
    rw [hrest]
    change site.pool.active.length < site.pool.settings.maxActive
    omega
  have hanew := hs.opensAnew hroom ho₁
  have hactive : s.pool.active = site.pool.active ++ turn.handed := by
    rw [hanew.active, hrest]
  constructor
  case idle => exact hnone
  case asks =>
    obtain ⟨outcome, e₁, hopens, hgrows⟩ := hanew.opens
    have hcalls := hopens.calls.trans hgrows.calls
    rw [hrest] at hcalls
    rw [hended.env]
    exact ⟨a.login, outcome, hcalls⟩
  case attempts =>
    have hattempts := hanew.attempts
    rw [hrest] at hattempts
    exact hattempts
  case left => exact hanew.idle
  case ticket =>
    refine ⟨turn.ticket n, hended.ticket, ?_⟩
    have htried := hanew.tried
    rcases turn with ⟨b, error | r⟩ | ⟨b, d⟩
    · rcases hs.error trivial with (rfl | rfl | ⟨after, rfl⟩) | ⟨fault, rfl⟩ | ⟨k, rfl⟩
      · exact nomatch htried
      · exact nomatch htried
      · exact nomatch htried
      · exact .inr ⟨.inl ⟨fault, rfl⟩, hactive.trans (List.append_nil _)⟩
      · exact .inr ⟨.inr ⟨k, rfl⟩, hactive.trans (List.append_nil _)⟩
    · exact .inl ⟨r, rfl, hactive⟩
    · exact nomatch htried
  case waits => rw [hanew.waits, h.tally]
  case claimed => rw [hanew.claimed, h.tally]
  case retired =>
    intro r hr
    refine hanew.retired r ⟨?_, ?_⟩
    · have hlt := (hw.owners.owned n site.pool hp).lt (mem_live_of_idle hr)
      exact Nat.lt_of_lt_of_le hlt hpassing.grown.length
    · rw [h.retired r hr]

theorem TurnOf.fetched (ht : TurnOf n t w w') (hw : Reachable w) (hn : w.sites[n]? = some site)
    (hopen : site.pool.closed = false) (hidle : site.pool.idle ≠ [])
    (hcount : site.pool.settings.maxIdle ≤ maxCount) :
    ∃ p', w'.pools[n]? = some p' ∧ Fetched n t w site w' p' := by
  have hp := pools_getElem? hn
  have hlimit : site.pool.idle.length ≤ site.pool.settings.badLimit := by
    have hbound := (hw.pool bounded_invariant hp).idle
    unfold Settings.badLimit
    omega
  have hserve : ∀ raised (a : Acquire) waited, a.bad = 0 →
      Ends (serve raised a) (w.entry n site waited) (Fetches raised a (w.entry n site waited)) := by
    intro raised a waited hbad
    refine .bind <| .look <| search_fetches raised hopen ?_ rfl
    rw [hbad]
    exact hlimit
  obtain ⟨turn, s, hturn, hended⟩ := ht.ends_of_flag hw hn
    (P := fun turn s =>
      (∃ v ∈ w.waiters, v.ticket = t ∧ w.isRaised v.flag = true ∧
        (∃ a, turn = .done a (.error .interrupted)) ∧
          s.pool = site.pool.roused v.began w.env.now ∧ s.env.calls = w.env.calls) ∨
      ∃ raised a waited, a.bad = 0 ∧ Fetches raised a (w.entry n site waited) turn s)
    (fun raised login => .bind <| .now <|
      (hserve raised _ site.pool.tally.waitTime rfl).mono fun turn s h =>
        .inr ⟨raised, _, _, rfl, h⟩)
    (by
      intro v hv hvt
      refine .bind <| .now <| .bind <| .count ?_
      by_cases hraised : w.isRaised v.flag = true
      · rw [if_pos hraised]
        exact .bind <| .note <| .pure (.inl ⟨v, hv, hvt, hraised, ⟨_, rfl⟩, rfl, rfl⟩)
      · rw [if_neg hraised]
        exact (hserve _ v.acquire _ (hw.unspent hv)).mono fun turn s h =>
          .inr ⟨_, _, _, hw.unspent hv, h⟩)
  refine ⟨s.pool, pools_getElem? (hended.site_eq hn), ?_⟩
  rcases hturn with ⟨v, hv, hvt, hraised, ⟨a, rfl⟩, hpool, hcalls⟩ | ⟨raised, a, waited, hbad, h⟩
  · exact .interrupted v hv hvt hraised hended.ticket hpool (by rw [hended.env, hcalls])
  · have hlt : ∀ r ∈ site.pool.idle, r < site.pool.handles.length := fun r hr =>
      (hw.owners.owned n site.pool hp).lt (mem_live_of_idle hr)
    cases h with
    | reuses h hr husable hturn hs =>
      subst hturn
      have hweeds := WeedsOut.of_passesOver hlt h
      exact .reuses hweeds (.of_handOut hweeds hr husable hs hended)
    | opens h hnone hsite hs =>
      have hweeds := WeedsOut.of_passesOver hlt h
      refine .opensNew hweeds (.of_seeks hw hn hopen hidle h hweeds hnone ?_ hs hended)
      rw [hbad, Nat.zero_add]
      exact hlimit

/-! ## Order and health -/

/-- In every run connections leave the idle list of a pool in the order in which returns put them
there. Let an acquire have a turn in the world that the run leads to, at an open pool with idle
connections. Unless it is interrupted, it judges them in the order of the list. Those that come
before the first usable one are retired, closed and counted. The first usable one is what the
acquire ends with, and the rest of the list stays. If none is usable, the acquire opens a new one.
(Settings are counts of 64 bits.) -/
theorem idle_reused_in_order {past : List (World S)} (hr : Run w past) (n : Nat) :
    FirstInFirstOut n w past ∧
      ∀ t w' site, TurnOf n t w w' → w.sites[n]? = some site → site.pool.closed = false →
        site.pool.idle ≠ [] → site.pool.settings.maxIdle ≤ maxCount →
          ∃ p', w'.pools[n]? = some p' ∧ Fetched n t w site w' p' :=
  ⟨hr.firstInFirstOut n, fun _ _ _ ht hn hopen hidle hcount =>
    ht.fetched hr.reachable hn hopen hidle hcount⟩

/-- Four connections lie idle. By now the database has closed the first, and the second cannot be
rolled back. -/
def patchy : World Scripted :=
  runAll {} [
    .create {} { settings := { maxActive := 4 }, target := { url := "db" } },
    .acquire 0 .ordinary false, .acquire 0 .ordinary false, .acquire 0 .ordinary false,
    .acquire 0 .ordinary false,
    .act (.release 1), .act (.release 0), .act (.release 2), .act (.release 3),
    .act (.order 0 (Scripted.Order.alter 2 { closed := some true })),
    .act (.order 0 (Scripted.Order.alter 1
      { autoCommit := some false, fails := [(.rollback, some .closed)] }))]

/-- The next acquire ends with the third, and the fourth stays. -/
theorem idle_reused_in_order_patchy :
    ∃ past site s₁ p', FirstInFirstOut 0 patchy past ∧ patchy.sites[0]? = some site ∧
      WeedsOut 0 patchy site [4, 5] s₁ ∧
        Reuses 0 4 s₁ 6 [7] (patchy.start 0 none none) site p' ∧ p'.tally.bad = 2 := by
  have hw : Reachable patchy := Reachable.runAll .refl _
  obtain ⟨past, hr⟩ := hw.exists_run
  have hbefore : ∃ site ∈ patchy.sites[0]?, site.pool.idle = [4, 5, 6, 7] ∧
      site.pool.closed = false ∧ site.pool.settings.maxIdle = 5 := by decide +kernel
  obtain ⟨site, hn, hidle, hopen, hmax⟩ := hbefore
  have hafter : ∀ p' ∈ (patchy.start 0 none none).pools[0]?,
      p'.idle = [7] ∧ p'.tally.bad = 2 := by decide +kernel
  have hticket : (patchy.start 0 none none).tickets[4]? = some (.held 0 6) := by decide +kernel
  have hturn : TurnOf 0 4 patchy (patchy.start 0 none none) :=
    .start .ordinary none rfl rfl (by decide +kernel)
  obtain ⟨horder, hfetches⟩ := idle_reused_in_order hr 0
  obtain ⟨p', hn', hfetched⟩ := hfetches 4 _ site hturn hn hopen (by rw [hidle]; nofun)
    (by rw [hmax]; decide)
  obtain ⟨hleft, hbad⟩ := hafter p' hn'
  cases hfetched with
  | interrupted v _ _ _ hfailed => exact nomatch hticket.symm.trans hfailed
  | opensNew _ h => exact nomatch hleft.symm.trans h.left
  | @reuses bad r rest s₁ hweeds h =>
    have hheld : Ticket.held 0 6 = .held 0 r := Option.some.inj (hticket.symm.trans h.ticket)
    obtain rfl : 6 = r := (Ticket.held.inj hheld).2
    obtain rfl : [7] = rest := hleft.symm.trans h.left
    obtain rfl : [4, 5] = bad := by
      have hqueue := hweeds.idle
      rw [hidle, h.idle] at hqueue
      exact List.append_cancel_right hqueue
    exact ⟨past, site, s₁, p', horder, hn, hweeds, h, hbad⟩

end World

end ConnPool
