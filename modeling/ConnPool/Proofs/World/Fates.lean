import ConnPool.Proofs.Pool.Covered
import ConnPool.Proofs.World.Capacity
import ConnPool.Proofs.World.Redrawn
import ConnPool.Proofs.World.Turns

/-!
# What becomes of a checkout

A handle that was given to a caller is checked out until one of four things happens: an acquire
takes it over (`Reclaims`), its caller returns it (`Returns`) or detaches it (`Detaches`), or the
pool gives up all that it has (`Retires`). Each is told by what the caller or the pool did, in one
critical section.

* `Section.quiet`: what a critical section in which no acquire has a turn means for the books.
* `Section.yields`: what it means for the pool.
* `Section.enters`: a handle comes among the checkouts when an acquire ends with it.

**Theorem (`Section.exits`).** When a checkout ends, just one of the four has happened, and none of
them happens otherwise.
-/

namespace ConnPool.World

open Pool

variable {S : Type}

/-- Handle `r` of pool `n` is checked out. -/
def Active (n : Nat) (r : Ref) (w : World S) : Prop := ∃ p, w.pools[n]? = some p ∧ r ∈ p.active

variable [Bench S]

/-! ## The events -/

/-- Some acquire has a turn at pool `n`. -/
def HasTurn (n : Nat) (w w' : World S) : Prop := ∃ t, TurnOf n t w w'

/-- An acquire takes a checkout over that has lasted too long. -/
def Reclaims (n : Nat) (r : Ref) (w w' : World S) : Prop :=
  HasTurn n w w' ∧ ¬Active n r w' ∧ ∃ p, w.pools[n]? = some p ∧ r ∈ p.active ∧
    p.settings.checkoutTimeout < (p.handle r).data.checkoutTime w'.env.now

/-- A caller returns a handle that is still valid. -/
def Returns (n : Nat) (r : Ref) (w w' : World S) : Prop :=
  ∃ t h, w.held? t = some (n, r, h) ∧ h.valid = true ∧ w.act (.release t) = some (.done, w')

/-- A caller detaches a handle, and is left with the connection. -/
def Detaches (n : Nat) (r : Ref) (w w' : World S) : Prop :=
  ∃ t h slot, w.held? t = some (n, r, h) ∧ w.act (.detach t) = some (.loose slot h.raw.id, w')

/-- A checkout ends because the pool is reconfigured, closed by force or shut down. -/
def Retires (n : Nat) (r : Ref) (w w' : World S) : Prop :=
  Active n r w ∧ ¬Active n r w' ∧ (Redraws n w w' ∨ w.act (.shutDown n) = some (.done, w'))

/-- A caller returns a handle that was retired before, or whose connection fails the probe. -/
def ReturnsBad (n : Nat) (w w' : World S) : Prop :=
  ∃ t r h site, w.held? t = some (n, r, h) ∧ w.sites[n]? = some site ∧
    w.act (.release t) = some (.done, w') ∧
    (h.valid = false ∨ ((Probe.ofSettings site.pool.settings).examine h.raw.conn
      (h.data.unusedFor w.env.now) ⟨w.env, n, site.backend⟩).1.healthy = false)

variable {w w' : World S} {n t : Nat} {r : Ref} {p p' : Pool}

/-! ## Handles that callers give up -/

/-- A caller gives a handle up. -/
def Spends (n : Nat) (r : Ref) (w w' : World S) : Prop :=
  ∃ t : Nat, w.tickets[t]? = some (.held n r) ∧ w'.tickets[t]? = some (.spent n r)

omit [Bench S] in
theorem spends_of_set {h : Handle} (hh : w.held? t = some (n, r, h))
    (ht : w'.tickets = w.tickets.set t (.spent n r)) : Spends n r w w' := by
  have hheld := (tickets_of_held? hh).1
  refine ⟨t, hheld, ?_⟩
  rw [ht]
  exact List.getElem?_set_self (List.getElem?_eq_some_iff.1 hheld).1

theorem Returns.spends (h : Returns n r w w') : Spends n r w w' ∧ w'.loose = w.loose := by
  obtain ⟨t, handle, hh, -, ha⟩ := h
  obtain ⟨m, s, site, hheld, -, -, rfl⟩ := act_release ha
  cases hh.symm.trans hheld
  exact ⟨spends_of_set hh rfl, rfl⟩

theorem ReturnsBad.spends (h : ReturnsBad n w w') : ∃ r, Spends n r w w' := by
  obtain ⟨t, r, handle, -, hh, -, ha, -⟩ := h
  obtain ⟨m, s, site, hheld, -, -, rfl⟩ := act_release ha
  cases hh.symm.trans hheld
  exact ⟨r, spends_of_set hh rfl⟩

theorem Detaches.spends (h : Detaches n r w w') :
    Spends n r w w' ∧ w'.loose.length = w.loose.length + 1 := by
  obtain ⟨t, handle, slot, hh, ha⟩ := h
  obtain ⟨m, s, site, w₁, hheld, -, rfl, ⟨-, heq⟩ | ⟨-, heq⟩⟩ := act_detach ha
  · cases hh.symm.trans hheld
    cases heq
    exact ⟨spends_of_set hh rfl, List.length_append⟩
  · exact nomatch heq

/-! ## Handles that leave the checkouts -/

omit [Bench S] in
theorem active_iff (hn : w.pools[n]? = some p) : Active n r w ↔ r ∈ p.active := by
  refine ⟨fun ⟨q, hq, hr⟩ => ?_, fun hr => ⟨p, hn, hr⟩⟩
  cases hq.symm.trans hn
  exact hr

/-- A handle that is given back is taken off the checkouts. -/
theorem active_of_yield {who : Handback} {e e' : Env} (y : Yield n who e p e' p')
    (h : who.ref? = some r) : p'.active = p.active.erase r := by
  cases y <;> cases h <;> rfl

omit [Bench S] in
theorem not_active_erase {e : Env} (ho : Owned e p (p.live none)) (hn' : w'.pools[n]? = some p')
    (hp' : p'.active = p.active.erase r) : ¬Active n r w' := by
  rw [active_iff hn', hp']
  exact fun hr => (ho.nodup_active.mem_erase_iff.1 hr).1 rfl

omit [Bench S] in
theorem active_of_live (h : p.live none = []) : p.active = [] :=
  (List.append_eq_nil_iff.1 (List.append_eq_nil_iff.1 h).2).1

theorem Returns.leaves (h : Returns n r w w') (hw : Reachable w) :
    Active n r w ∧ ¬Active n r w' := by
  obtain ⟨t, handle, hh, hv, ha⟩ := h
  obtain ⟨m, s, site, hheld, hn, -, rfl⟩ := act_release ha
  cases hh.symm.trans hheld
  have hp := pools_getElem? hn
  have ho := hw.owners.owned n site.pool hp
  have hidle := (hw.owners.lt_and_notMem_idle hp (held?_eq_some hh).1).2
  refine ⟨⟨site.pool, hp, ho.mem_active hv hidle⟩, ?_⟩
  exact not_active_erase ho (pools_set_self hp (pools_after w n site _))
    (active_of_yield (release_yields r (w.scene n site)).2 rfl)

theorem Detaches.leaves (h : Detaches n r w w') (hw : Reachable w) :
    Active n r w ∧ ¬Active n r w' := by
  obtain ⟨t, handle, slot, hh, ha⟩ := h
  obtain ⟨m, s, site, w₁, hheld, hn, rfl, ⟨howned, heq⟩ | ⟨-, heq⟩⟩ := act_detach ha
  · cases hh.symm.trans hheld
    cases heq
    have hp := pools_getElem? hn
    rw [detach_owned, Bool.and_eq_true, List.contains_iff_mem] at howned
    refine ⟨⟨site.pool, hp, howned.1⟩, ?_⟩
    exact not_active_erase (hw.owners.owned n site.pool hp)
      (pools_set_self hp (pools_after w n site _))
      (active_of_yield (detach_yields r (w.scene n site)).2 rfl)
  · exact nomatch heq

theorem Redraws.tickets (h : Redraws n w w') : w'.tickets = w.tickets := by
  cases h with
  | change c h =>
    obtain ⟨site, -, ⟨-, rfl, -⟩ | ⟨-, rfl⟩⟩ := act_change h <;> rfl
  | forceClose h =>
    obtain ⟨site, -, -, rfl⟩ := act_forceClose h
    rfl

/-- What ends checkouts by order ends all of them, and leaves the tickets alone. -/
theorem Retires.empties (h : Retires n r w w') :
    w'.tickets = w.tickets ∧ ∀ p', w'.pools[n]? = some p' → p'.active = [] := by
  obtain ⟨hin, hout, hline | hshut⟩ := h
  · refine ⟨hline.tickets, fun p' hn' => ?_⟩
    have hlisted := hline.listed
    rw [listed_eq hn', conns, List.map_eq_nil_iff] at hlisted
    exact active_of_live hlisted
  · obtain ⟨site, hn, -, ⟨rfl, -, hy⟩ | rfl⟩ := act_shutDown hshut
    · refine ⟨rfl, fun p' hn' => ?_⟩
      cases (pools_set_self (pools_getElem? hn) (pools_after w n site _)).symm.trans hn'
      exact active_of_live (live_of_yield hy)
    · exact absurd hin hout

/-! ## No two of them at once -/

omit [Bench S] in
theorem Turned.not_spends {m : Nat} {phase : Phase} {turn : Turn}
    (h : Turned n t w w' p phase turn p') : ¬Spends m r w w' := by
  rintro ⟨u, hheld, hspent⟩
  exact nomatch (h.keeps_held hheld).symm.trans hspent

/-- An acquire whose turn leaves the tickets as they were sleeps, while all checkouts are in use. -/
theorem Turned.not_retires {phase : Phase} {turn : Turn} (h : Turned n t w w' p phase turn p')
    (hw' : Reachable w') : ¬Retires n r w w' := by
  intro hretires
  obtain ⟨htickets, hempty⟩ := hretires.empties
  have hticket := h.ticket
  rcases h.stands with ⟨hnew, hlen, -⟩ | ⟨hwaiting, -⟩
  · rw [htickets, hnew] at hlen
    exact absurd hlen (Nat.ne_of_lt (Nat.lt_succ_self _))
  · rw [htickets, hwaiting] at hticket
    obtain ⟨raised, hs⟩ := h.seeks
    rcases turn with ⟨a, e | s⟩ | ⟨a, d⟩
    · exact nomatch hticket
    · exact nomatch hticket
    · have hfull := (seeks_sleep hs h.starts).2.full
      rw [hempty p' h.after] at hfull
      have hpos := Settings.maxActive_pos (hw'.pool fit_invariant h.after)
      exact absurd (Nat.lt_of_lt_of_le hpos hfull) (Nat.lt_irrefl 0)

theorem Returns.not_detaches (h : Returns n r w w') : ¬Detaches n r w w' := by
  intro hd
  have hloose := hd.spends.2
  rw [h.spends.2] at hloose
  exact absurd hloose (Nat.ne_of_lt (Nat.lt_succ_self _))

omit [Bench S] in
theorem Spends.tickets_ne (h : Spends n r w w') : w'.tickets ≠ w.tickets := by
  obtain ⟨t, hheld, hspent⟩ := h
  intro heq
  rw [heq, hheld] at hspent
  exact nomatch hspent

/-! ## Sections without a turn -/

theorem ReturnsBad.bad (h : ReturnsBad n w w') (hn : w.pools[n]? = some p)
    (hn' : w'.pools[n]? = some p') : p'.tally.bad = p.tally.bad + 1 := by
  obtain ⟨t, r, handle, site, hh, hsite, ha, hbad⟩ := h
  obtain ⟨m, s, site', hheld, hsite', -, rfl⟩ := act_release ha
  cases hh.symm.trans hheld
  cases Option.some.inj (hsite'.symm.trans hsite)
  cases Option.some.inj (hn.symm.trans (pools_getElem? hsite))
  cases (pools_set_self (pools_getElem? hsite) (pools_after w n site _)).symm.trans hn'
  have hsound : (isSound r (w.scene n site)).1 = false := by
    rw [isSound_answer, Bool.and_eq_false_iff]
    exact hbad
  refine (release_bad r (w.scene n site)).trans ?_
  rw [hsound]
  rfl

/-- What a critical section in which no acquire has a turn means for the books of pool `n`. -/
structure Quiet (n : Nat) (w w' : World S) (p p' : Pool) : Prop where
  after : w'.pools[n]? = some p'
  lent : w'.lent n = w.lent n
  active : ∀ r ∈ p'.active, r ∈ p.active
  tally : p'.tally.requests = p.tally.requests ∧ p'.tally.claimed = p.tally.claimed ∧
    p'.tally.waits = p.tally.waits
  bad : p'.tally.bad = p.tally.bad ∧ ¬ReturnsBad n w w' ∨
    p'.tally.bad = p.tally.bad + 1 ∧ ReturnsBad n w w'
  leaves : ∀ r ∈ p.active, r ∉ p'.active →
    Returns n r w w' ∨ Detaches n r w w' ∨ Retires n r w w'

namespace Quiet

theorem bad_of_same (hn : w.pools[n]? = some p) (hn' : w'.pools[n]? = some p')
    (h : p'.tally.bad = p.tally.bad) :
    p'.tally.bad = p.tally.bad ∧ ¬ReturnsBad n w w' ∨
      p'.tally.bad = p.tally.bad + 1 ∧ ReturnsBad n w w' := by
  refine .inl ⟨h, fun hbad => ?_⟩
  exact absurd (h.symm.trans (hbad.bad hn hn')) (Nat.ne_of_lt (Nat.lt_succ_self _))

/-- Nothing happens to the pool. -/
theorem of_same (hn : w.pools[n]? = some p) (hn' : w'.pools[n]? = some p) (h : Aside n w w') :
    Quiet n w w' p p where
  after := hn'
  lent := h.lent
  active _ hr := hr
  tally := ⟨rfl, rfl, rfl⟩
  bad := bad_of_same hn hn' rfl
  leaves _ hr hout := absurd hr hout

/-- All checkouts are ended, by order. -/
theorem of_all {e e' : Env} (hn : w.pools[n]? = some p) (hn' : w'.pools[n]? = some p')
    (h : Aside n w w') (hy : Yield n .all e p e' p')
    (hline : Redraws n w w' ∨ w.act (.shutDown n) = some (.done, w')) : Quiet n w w' p p' where
  after := hn'
  lent := h.lent
  active _ := hy.mem_active
  tally := hy.tally
  bad := bad_of_same hn hn' (hy.bad nofun)
  leaves _ hr hout :=
    .inr (.inr ⟨(active_iff hn).2 hr, fun h => hout ((active_iff hn').1 h), hline⟩)

/-- A handle is returned. -/
theorem of_release {site site' : Site S} {h : Handle} (hw : Reachable w)
    (hn : w.sites[n]? = some site) (hn' : w'.sites[n]? = some site') (haside : Aside n w w')
    (hh : w.held? t = some (n, r, h)) (ha : w.act (.release t) = some (.done, w'))
    (hpool : site'.pool = (Pool.release r (w.scene n site)).2.pool) :
    Quiet n w w' site.pool site'.pool := by
  have hp := pools_getElem? hn
  have hp' := pools_getElem? hn'
  have hy := (release_yields r (w.scene n site)).2
  have hbad := release_bad r (w.scene n site)
  rw [← hpool] at hy hbad
  obtain ⟨-, site₁, hn₁, rfl⟩ := tickets_of_held? hh
  cases Option.some.inj (hn.symm.trans hn₁)
  constructor
  case after => exact hp'
  case lent => exact haside.lent
  case active => exact fun _ => hy.mem_active
  case tally => exact hy.tally
  case bad =>
    cases hsound : (isSound r (w.scene n site)).1 with
    | true =>
      rw [hsound] at hbad
      exact bad_of_same hp hp' hbad
    | false =>
      rw [hsound] at hbad
      rw [isSound_answer, Bool.and_eq_false_iff] at hsound
      exact .inr ⟨hbad, t, r, _, site, hh, hn, ha, hsound⟩
  case leaves =>
    intro s hs hout
    rw [active_of_yield hy rfl] at hout
    obtain rfl : s = r := by_contra fun hne => hout ((List.mem_erase_of_ne hne).2 hs)
    have hv := ((hw.owners.owned n _ hp).valid s).2 (mem_live_of_active hs)
    exact .inl ⟨t, _, hh, hv, ha⟩

/-- A handle is detached. -/
theorem of_detach {site site' : Site S} {h : Handle} {answer : Answer} (hw : Reachable w)
    (hn : w.sites[n]? = some site) (hn' : w'.sites[n]? = some site') (haside : Aside n w w')
    (hh : w.held? t = some (n, r, h)) (ha : w.act (.detach t) = some (answer, w'))
    (hpool : site'.pool = (Pool.detach r (w.scene n site)).2.pool) :
    Quiet n w w' site.pool site'.pool := by
  have hp := pools_getElem? hn
  have hp' := pools_getElem? hn'
  have hy := (detach_yields r (w.scene n site)).2
  rw [← hpool] at hy
  constructor
  case after => exact hp'
  case lent => exact haside.lent
  case active => exact fun _ => hy.mem_active
  case tally => exact hy.tally
  case bad => exact bad_of_same hp hp' (hy.bad nofun)
  case leaves =>
    intro s hs hout
    rw [active_of_yield hy rfl] at hout
    obtain rfl : s = r := by_contra fun hne => hout ((List.mem_erase_of_ne hne).2 hs)
    have hv := ((hw.owners.owned n _ hp).valid s).2 (mem_live_of_active hs)
    obtain ⟨m, c, site₁, w₁, hheld, hn₁, -, ⟨-, heq⟩ | ⟨hrefused, -⟩⟩ := act_detach ha
    all_goals cases hh.symm.trans hheld
    · cases heq
      exact .inr (.inl ⟨t, _, _, hh, ha⟩)
    · cases Option.some.inj (hn.symm.trans hn₁)
      rw [detach_owned, Bool.and_eq_false_iff] at hrefused
      rcases hrefused with hno | hno
      · exact nomatch hno.symm.trans (List.contains_iff_mem.2 hs)
      · exact absurd (hv.symm.trans hno) nofun

end Quiet

/-- Without a turn a critical section is quiet. -/
theorem Section.quiet (hs : Section w w') (hw : Reachable w) (hn : w.pools[n]? = some p)
    (hno : ¬HasTurn n w w') : ∃ p', Quiet n w w' p p' := by
  obtain ⟨site, hsite, rfl⟩ := exists_site_of_pools hn
  obtain ⟨site', hsite', hmeets⟩ := hs.meets hw hsite
  have hn' := pools_getElem? hsite'
  refine ⟨site'.pool, ?_⟩
  have hpool : (w'.scene n site').pool = site'.pool := rfl
  generalize w'.scene n site' = s' at hmeets hpool
  have hsame : s'.pool = site.pool → Aside n w w' → Quiet n w w' site.pool site'.pool := by
    intro heq h
    rw [← hpool, heq] at hn' ⊢
    exact .of_same hn hn' h
  rcases hmeets with hd | ⟨h, hu⟩
  · cases hd with
    | aside h | order _ h => exact hsame rfl h
    | begin d flag hd hw' => exact absurd ⟨_, .start d flag hd hw' rfl⟩ hno
    | resume v hv hvn hw' => exact absurd ⟨_, .resume v hv hvn rfl hw'⟩ hno
    | release t r handle h hh ha => exact .of_release hw hsite hsite' h hh ha hpool.symm
    | detach t r handle answer h hh ha => exact .of_detach hw hsite hsite' h hh ha hpool.symm
    | change c h ha =>
      rcases change_yields c (w.scene n site) with ⟨-, -, hy⟩ | ⟨-, heq⟩
      · exact .of_all hn hn' h (hpool ▸ hy) (.inl (.change c ha))
      · exact hsame (congrArg Scene.pool heq) h
    | forceClose h ha =>
      exact .of_all hn hn' h (hpool ▸ (drain_yields (w.scene n site)).2) (.inl (.forceClose ha))
    | shutDown h ha =>
      rcases shutDown_yields (w.scene n site) with ⟨-, -, hy⟩ | ⟨-, heq⟩
      · exact .of_all hn hn' h (hpool ▸ hy) (.inr ha)
      · exact hsame (congrArg Scene.pool heq) h
  · cases hu <;> exact hsame rfl h

/-- All connections of pool `n` are given up: it is reconfigured, closed by force or shut down. -/
def GivesUpAll (n : Nat) (w w' : World S) : Prop :=
  Redraws n w w' ∨ w.act (.shutDown n) = some (.done, w')

/-- What callers do to give something back to pool `n`. -/
inductive Gives (n : Nat) (w w' : World S) : Handback → Prop
  | release (t : Nat) (r : Ref) (h : Handle) (hh : w.held? t = some (n, r, h))
      (ha : w.act (.release t) = some (.done, w')) : Gives n w w' (.release r)
  | detach (t : Nat) (r : Ref) (answer : Answer) (ha : w.act (.detach t) = some (answer, w')) :
      Gives n w w' (.detach r)
  | all (ha : GivesUpAll n w w') : Gives n w w' .all

/-- Without a turn of an acquire a pool stays as it is, or callers give something back. -/
theorem Section.yields (hs : Section w w') (hw : Reachable w) {site : Site S}
    (hn : w.sites[n]? = some site) (hno : ¬HasTurn n w w') :
    w'.SceneAt n fun s' => s'.pool = site.pool ∨
      ∃ who, Gives n w w' who ∧ Yield n who w.env site.pool s'.env s'.pool := by
  refine (hs.meets hw hn).mono fun s' hmeets => ?_
  rcases hmeets with hd | ⟨-, hu⟩
  · cases hd with
    | aside | order => exact .inl rfl
    | begin d flag hd hw' => exact absurd ⟨_, .start d flag hd hw' rfl⟩ hno
    | resume v hv hvn hw' => exact absurd ⟨_, .resume v hv hvn rfl hw'⟩ hno
    | release t r handle _ hh ha =>
      exact .inr ⟨_, .release t r handle hh ha, (release_yields r (w.scene n site)).2⟩
    | detach t r handle answer _ _ ha =>
      exact .inr ⟨_, .detach t r answer ha, (detach_yields r (w.scene n site)).2⟩
    | change c _ ha =>
      rcases change_yields c (w.scene n site) with ⟨-, -, hy⟩ | ⟨-, heq⟩
      · exact .inr ⟨_, .all (.inl (.change c ha)), hy⟩
      · exact .inl (congrArg Scene.pool heq)
    | forceClose _ ha =>
      exact .inr ⟨_, .all (.inl (.forceClose ha)), (drain_yields (w.scene n site)).2⟩
    | shutDown _ ha =>
      rcases shutDown_yields (w.scene n site) with ⟨-, -, hy⟩ | ⟨-, heq⟩
      · exact .inr ⟨_, .all (.inr ha), hy⟩
      · exact .inl (congrArg Scene.pool heq)
  · cases hu <;> exact .inl rfl

/-! ## Checkouts that begin -/

/-- The handle with which a turn ends is checked out, and no caller had it before. -/
theorem Turned.handed {phase : Phase} {turn : Turn} (h : Turned n t w w' p phase turn p')
    (hw : Reachable w) (hn : w.pools[n]? = some p) (hr : r ∈ turn.handed) :
    r ∈ p'.active ∧ r ∉ w.lent n := by
  obtain ⟨raised, hs⟩ := h.seeks
  have ho : Owned w.env p (p.live phase.hand) := h.starts.hand ▸ hw.owners.owned n p hn
  have hspares := (seeks_owned hs ho (hw.owners.spares hn h.starts)).2
  rcases turn with ⟨a, e | s⟩ | ⟨a, d⟩
  · exact nomatch hr
  · cases List.mem_singleton.1 hr
    rw [mem_lent]
    exact hspares.handed a r rfl
  · exact nomatch hr

/-- Nobody was given anything of a pool that is not there. -/
theorem lent_eq_nil (hw : Reachable w) (hn : w.pools[n]? = none) : w.lent n = [] := by
  refine List.eq_nil_iff_forall_not_mem.2 fun r hr => ?_
  obtain ⟨t, ht⟩ := mem_lent.1 hr
  obtain ⟨p, hp, -⟩ := hw.owners.given t n r ht
  exact nomatch hn.symm.trans hp

/-- A pool that was not there before has an empty book. -/
theorem Section.blank (hs : Section w w') (hw : Reachable w) (hn : w.pools[n]? = none) :
    w'.lent n = [] ∧
      ∀ p', w'.pools[n]? = some p' → ∃ settings target, p' = .empty settings target := by
  have hnew : ∀ p', w'.pools[n]? = some p' → Beside w w' ∧
      ∃ settings target, p' = .empty settings target := fun p' hn' =>
    (hs.created hn hn').imp id fun ⟨settings, target, _, heq⟩ => ⟨settings, target, heq⟩
  have hw' : Reachable w' := hw.tail hs
  refine ⟨List.eq_nil_iff_forall_not_mem.2 fun r hr => ?_, fun p' hn' => (hnew p' hn').2⟩
  obtain ⟨t, ht⟩ := mem_lent.1 hr
  obtain ⟨p', hn', -⟩ := hw'.owners.given t n r ht
  obtain ⟨q, hq, -⟩ := hw.owners.given t n r ((hnew p' hn').1.given t n r ht)
  exact nomatch hn.symm.trans hq

/-- A handle comes among the checkouts when an acquire ends with it. -/
theorem Section.enters (hs : Section w w') (hw : Reachable w) (hout : ¬Active n r w) :
    Active n r w' ↔ r ∉ w.lent n ∧ r ∈ w'.lent n := by
  cases hn : w.pools[n]? with
  | none =>
    obtain ⟨hlent, hempty⟩ := hs.blank hw hn
    rw [hlent]
    refine ⟨fun ⟨p', hp', hr⟩ => ?_, fun h => nomatch h.2⟩
    obtain ⟨settings, target, rfl⟩ := hempty p' hp'
    exact nomatch hr
  | some p =>
    rw [active_iff hn] at hout
    by_cases hturn : HasTurn n w w'
    · obtain ⟨t, ht⟩ := hturn
      obtain ⟨phase, turn, p', h⟩ := ht.turned hw hn
      obtain ⟨raised, hseeks⟩ := h.seeks
      rw [active_iff h.after, h.lent.mem_iff, List.mem_append]
      constructor
      · intro hr
        have hhanded := (hseeks.mem_active hr).resolve_left hout
        exact ⟨(h.handed hw hn hhanded).2, .inl hhanded⟩
      · rintro ⟨hnew, hr | hr⟩
        · exact (h.handed hw hn hr).1
        · exact absurd hr hnew
    · obtain ⟨p', h⟩ := hs.quiet hw hn hturn
      rw [active_iff h.after, h.lent]
      exact ⟨fun hr => absurd (h.active r hr) hout, fun hr => absurd hr.2 hr.1⟩

/-- An acquire that ended with a handle did so for good. -/
theorem Section.given (hs : Section w w') (hw : Reachable w) (h : w.Given t n r) :
    w'.Given t n r := by
  rcases h with ht | ht <;> obtain ⟨y, hy, hbecomes⟩ := hw.queued.becomes hs ht
  · cases hbecomes with
    | same => exact .inl hy
    | spent => exact .inr hy
  · cases hbecomes with
    | same => exact .inr hy

theorem Section.lent_subset (hs : Section w w') (hw : Reachable w) (hr : r ∈ w.lent n) :
    r ∈ w'.lent n := by
  obtain ⟨t, ht⟩ := mem_lent.1 hr
  exact mem_lent.2 ⟨t, hs.given hw ht⟩

theorem Reachable.lent_of_active (hw : Reachable w) (h : Active n r w) : r ∈ w.lent n := by
  induction hw with
  | refl =>
    obtain ⟨p, hn, -⟩ := h
    simp [pools] at hn
  | @tail w w' hw hs ih =>
    by_cases hold : Active n r w
    · exact hs.lent_subset hw (ih hold)
    · exact ((hs.enters hw hold).1 h).2

open scoped Classical in
/-- A handle that is checked out was given to a caller, and one that is given is checked out. -/
theorem Section.checkouts (hs : Section w w') (hw : Reachable w) (n : Nat) (r : Ref) :
    (if Active n r w' then 1 else 0) + (if Active n r w ∧ ¬Active n r w' then 1 else 0) +
        (if r ∈ w.lent n then 1 else 0) =
      (if Active n r w then 1 else 0) + if r ∈ w'.lent n then 1 else 0 := by
  by_cases hold : Active n r w
  · have hlent := hw.lent_of_active hold
    have hlent' := hs.lent_subset hw hlent
    by_cases hnew : Active n r w' <;> simp [hold, hnew, hlent, hlent']
  · have henters := hs.enters hw hold
    by_cases hlent : r ∈ w.lent n
    · have hlent' := hs.lent_subset hw hlent
      simp [hold, henters, hlent, hlent']
    · simp [hold, henters, hlent]

/-! ## Checkouts that end -/

/-- A turn takes over what leaves the checkouts in it. -/
theorem Turned.reclaims {phase : Phase} {turn : Turn} (h : Turned n t w w' p phase turn p')
    (ht : TurnOf n t w w') (hw : Reachable w) (hn : w.pools[n]? = some p)
    (hin : Active n r w) (hout : ¬Active n r w') : Reclaims n r w w' := by
  obtain ⟨raised, hs⟩ := h.seeks
  have ho : Owned w.env p (p.live phase.hand) := h.starts.hand ▸ hw.owners.owned n p hn
  have hr := (active_iff hn).1 hin
  have hr' := fun hr' => hout ((active_iff h.after).2 hr')
  exact ⟨⟨t, ht⟩, hout, p, hn, hr, hs.overdue ho hr hr'⟩

open scoped Classical in
/-- A checkout ends in just one way. -/
theorem Section.exits (hs : Section w w') (hw : Reachable w) (n : Nat) (r : Ref) :
    (if Reclaims n r w w' then 1 else 0) + (if Returns n r w w' then 1 else 0) +
        (if Detaches n r w w' then 1 else 0) + (if Retires n r w w' then 1 else 0) =
      if Active n r w ∧ ¬Active n r w' then 1 else 0 := by
  have hw' : Reachable w' := hw.tail hs
  by_cases hleaves : Active n r w ∧ ¬Active n r w'
  · rw [if_pos hleaves]
    obtain ⟨p, hn, hr⟩ := hleaves.1
    by_cases hturn : HasTurn n w w'
    · obtain ⟨t, ht⟩ := hturn
      obtain ⟨phase, turn, p', h⟩ := ht.turned hw hn
      rw [if_pos (h.reclaims ht hw hn hleaves.1 hleaves.2),
        if_neg fun hreturns => h.not_spends hreturns.spends.1,
        if_neg fun hdetaches => h.not_spends hdetaches.spends.1, if_neg (h.not_retires hw')]
    · obtain ⟨p', h⟩ := hs.quiet hw hn hturn
      have hout := fun hr' => hleaves.2 ((active_iff h.after).2 hr')
      rw [if_neg fun hreclaims => hturn hreclaims.1]
      rcases h.leaves r hr hout with hreturns | hdetaches | hretires
      · rw [if_pos hreturns, if_neg hreturns.not_detaches,
          if_neg fun hretires => hreturns.spends.1.tickets_ne hretires.empties.1]
      · rw [if_neg fun hreturns => hreturns.not_detaches hdetaches, if_pos hdetaches,
          if_neg fun hretires => hdetaches.spends.1.tickets_ne hretires.empties.1]
      · rw [if_neg fun hreturns => hreturns.spends.1.tickets_ne hretires.empties.1,
          if_neg fun hdetaches => hdetaches.spends.1.tickets_ne hretires.empties.1,
          if_pos hretires]
  · rw [if_neg hleaves, if_neg fun ⟨_, hout, p, hn, hr, _⟩ => hleaves ⟨⟨p, hn, hr⟩, hout⟩,
      if_neg fun h => hleaves (h.leaves hw), if_neg fun h => hleaves (h.leaves hw),
      if_neg fun h => hleaves ⟨h.1, h.2.1⟩]

end ConnPool.World
