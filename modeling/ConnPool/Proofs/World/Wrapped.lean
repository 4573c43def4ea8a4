import ConnPool.Proofs.Pool.Wrapped
import ConnPool.Proofs.World.Fates

/-!
# Connections are wrapped once

Which connections a turn of an acquire wraps, and when, is told by the course of its search
(`Wrapped`). What a pool remembers of the births of its connections is compared with that.

* `births_invariant`: a connection has one birth only.
* `Section.births`: what a critical section adds to the births that are known to a pool.

**Theorem (`Run.births`).** After every run the births that the handles of a pool tell of are those
of the connections that were wrapped in it.
-/

namespace ConnPool

open Pool World

/-- Different births are those of different connections. -/
theorem births_invariant : PoolInvariant fun _ _ p _ =>
    ∀ b ∈ p.births, ∀ b' ∈ p.births, b.raw.conn = b'.raw.conn → b = b' where
  empty _ _ hb := absurd hb List.not_mem_nil
  later _ h := h
  seek {n raised g g'} st ho h := by
    have hnew : ∀ b b', b ∈ g.pool.births → g.Bears g' b' → b.raw.conn ≠ b'.raw.conn := by
      intro b b' hb hb' heq
      obtain ⟨r, hr, rfl⟩ := exists_of_mem_births hb
      have hle : g.pool.connOf r ≤ g.pool.attempts := ho.conn_le r hr
      rw [connOf, show (g.pool.handle r).raw.conn = _ from heq, st.conn_of_bears hb'] at hle
      exact Nat.not_succ_le_self _ hle
    intro b hb b' hb' heq
    rcases st.births.1 hb with hb | hb <;> rcases st.births.1 hb' with hb' | hb'
    · exact h b hb b' hb' heq
    · exact absurd heq (hnew b b' hb hb')
    · exact absurd heq.symm (hnew b' b hb' hb)
    · obtain ⟨-, a, r, -, hphase, rfl⟩ := hb
      obtain ⟨-, a', r', -, hphase', rfl⟩ := hb'
      cases hphase.symm.trans hphase'
      rfl
  yield y _ _ h := fun b hb b' hb' => h b (y.births.1 hb) b' (y.births.1 hb')

namespace World

variable {S : Type}

/-- The births that pool `n` tells of. -/
def birthsOf (w : World S) (n : Nat) : List Birth := (w.pools[n]?.map (·.births)).getD []

theorem birthsOf_eq {w : World S} {n : Nat} {p : Pool} (hn : w.pools[n]? = some p) :
    w.birthsOf n = p.births := by
  rw [birthsOf, hn]
  rfl

/-- What a pool tells of after a turn is what the turn left in its scene. -/
theorem birthsOf_endTurn {w : World S} {n : Nat} {site : Site S} (hn : w.sites[n]? = some site)
    (s : Scene S) (t : Nat) (flag : Option Nat) (turn : Turn) :
    ((w.after n site s).endTurn t n flag turn).birthsOf n = s.pool.births := by
  have hpools : (w.after n site s).pools[n]? = some s.pool :=
    pools_set_self (pools_getElem? hn) (pools_after w n site s)
  refine birthsOf_eq ?_
  cases turn <;> exact hpools

variable [Bench S] {w w' : World S} {n : Nat} {site : Site S} {b : Birth} {past : List (World S)}

/-- In its turn at pool `n` an acquire opens a connection and wraps it, and `b` is its birth. -/
inductive Wrapped (n : Nat) (b : Birth) (w w' : World S) : Prop
  /-- The acquire is started. -/
  | start (d : Demand) (flag : Option Nat) (site : Site S) (hd : w.demand n d = some w')
      (hw : w' = w.start n d.login flag) (hn : w.sites[n]? = some site)
      (hb : Wraps d.login site.pool.settings.badLimit (w.scene n site) b)
  /-- It was blocked, and runs again. -/
  | resume (v : Waiter) (site : Site S) (hv : v ∈ w.waiters) (hvn : v.site = n)
      (hw : w' = w.resume v) (hn : w.sites[n]? = some site) (hraised : w.isRaised v.flag = false)
      (hb : Wraps v.acquire.login (site.pool.settings.badLimit - v.acquire.bad)
        { w.scene n site with pool := site.pool.roused v.began w.env.now } b)

theorem Wrapped.hasTurn (h : Wrapped n b w w') : HasTurn n w w' := by
  cases h with
  | start d flag _ hd hw => exact ⟨_, .start d flag hd hw rfl⟩
  | resume v _ hv hvn hw => exact ⟨_, .resume v hv hvn rfl hw⟩

/-- A connection is wrapped under its own number. -/
theorem Wrapped.number_eq (h : Wrapped n b w w') : b.number = b.raw.id := by
  cases h with
  | start d flag site hd hw hn hb => exact hb.number_eq
  | resume v site hv hvn hw hn hraised hb => exact hb.number_eq

theorem start_births (hn : w.sites[n]? = some site) (login : Option (String × String))
    (flag : Option Nat) : b ∈ (w.start n login flag).birthsOf n ↔
      b ∈ w.birthsOf n ∨ Wraps login site.pool.settings.badLimit (w.scene n site) b := by
  have hticketed : w.ticketed.sites[n]? = some site := hn
  rw [start_eq hn login flag, birthsOf_endTurn hticketed, birthsOf_eq (pools_getElem? hn)]
  exact begin_births (w.isRaised flag) login (w.scene n site) b

theorem resume_births {v : Waiter} (hn : w.sites[v.site]? = some site) :
    b ∈ (w.resume v).birthsOf v.site ↔ b ∈ w.birthsOf v.site ∨ w.isRaised v.flag = false ∧
      Wraps v.acquire.login (site.pool.settings.badLimit - v.acquire.bad)
        { w.scene v.site site with pool := site.pool.roused v.began w.env.now } b := by
  have hwithout : (w.without v).sites[v.site]? = some site := hn
  rw [resume_eq hn, birthsOf_endTurn hwithout, birthsOf_eq (pools_getElem? hn)]
  exact Pool.resume_births (w.isRaised v.flag) v.began v.acquire (w.scene v.site site) b

/-- A pool tells of what was wrapped. -/
theorem Wrapped.mem_birthsOf (h : Wrapped n b w w') : b ∈ w'.birthsOf n := by
  cases h with
  | start d flag site hd hw hn hb =>
    rw [hw]
    exact (start_births hn d.login flag).2 (.inr hb)
  | resume v site hv hvn hw hn hraised hb =>
    subst hvn
    rw [hw]
    exact (resume_births hn).2 (.inr ⟨hraised, hb⟩)

theorem TurnOf.births {t : Nat} (h : TurnOf n t w w') (hn : w.sites[n]? = some site) :
    b ∈ w'.birthsOf n ↔ b ∈ w.birthsOf n ∨ Wrapped n b w w' := by
  constructor
  · intro hb
    cases h with
    | start d flag hd hw =>
      rw [hw, start_births hn d.login flag] at hb
      exact hb.imp_right (.start d flag site hd hw hn)
    | resume v hv hvn _ hw =>
      subst hvn
      rw [hw, resume_births hn] at hb
      exact hb.imp_right fun h => .resume v site hv rfl hw hn h.1 h.2
  · rintro (hb | hb)
    · cases h with
      | start d flag _ hw =>
        rw [hw]
        exact (start_births hn d.login flag).2 (.inl hb)
      | resume v _ hvn _ hw =>
        subst hvn
        rw [hw]
        exact (resume_births hn).2 (.inl hb)
    · exact hb.mem_birthsOf

/-- A critical section adds the births of the connections that are wrapped in it. -/
theorem Section.births (hs : Section w w') (hw : Reachable w) (n : Nat) (b : Birth) :
    b ∈ w'.birthsOf n ↔ b ∈ w.birthsOf n ∨ Wrapped n b w w' := by
  cases hn : w.sites[n]? with
  | none =>
    have hp := pools_eq_none_iff.2 hn
    have hnone : w.birthsOf n = [] := by rw [birthsOf, hp]; rfl
    have hnone' : w'.birthsOf n = [] := by
      cases hp' : w'.pools[n]? with
      | none => rw [birthsOf, hp']; rfl
      | some p' =>
        obtain ⟨settings, target, rfl⟩ := (hs.blank hw hp).2 p' hp'
        exact birthsOf_eq hp'
    rw [hnone, hnone']
    refine (or_iff_left fun h => ?_).symm
    cases h with
    | start _ _ _ _ _ hn' => exact nomatch hn.symm.trans hn'
    | resume _ _ _ _ _ hn' => exact nomatch hn.symm.trans hn'
  | some site =>
    by_cases hturn : HasTurn n w w'
    · obtain ⟨t, ht⟩ := hturn
      exact ht.births hn
    · obtain ⟨site', hn', hyields⟩ := hs.yields hw hn hturn
      rw [birthsOf_eq (pools_getElem? hn), birthsOf_eq (pools_getElem? hn')]
      refine Iff.trans ?_ (or_iff_left fun h => hturn h.hasTurn).symm
      rcases hyields with heq | ⟨who, -, hy⟩
      · exact iff_of_eq (congrArg (fun p : Pool => b ∈ p.births) heq)
      · exact hy.births

/-- A pool tells of all connections that were ever wrapped for it, and of no other. -/
theorem Run.births (hr : Run w past) (n : Nat) (b : Birth) :
    b ∈ w.birthsOf n ↔ ∃ m ∈ moves w past, Wrapped n b m.1 m.2 := by
  induction hr with
  | start => simp [birthsOf, pools, moves]
  | @next w w' past hr hs ih =>
    rw [hs.births hr.reachable n b, ih, moves, List.exists_mem_cons_iff, or_comm]

end World

end ConnPool
