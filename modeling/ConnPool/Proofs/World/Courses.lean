import ConnPool.Proofs.Pool.Sifting
import ConnPool.Proofs.World.Capacity
import ConnPool.Proofs.World.Turns

/-!
# The course of a turn

A turn of an acquire runs in the scene of its pool. The other pools stand still, and what the
acquire ends with goes to its ticket (`TurnOf.ends_of`). The acquire comes into each turn with
nothing tried: it has just started, or it has slept, and no acquire goes to sleep after a candidate
(`Reachable.unspent`).

**Theorem (`TurnOf.course`).** So all candidates of an acquire are those of one turn, and what is
true of such a turn in its pool is true in every reachable world.
-/

namespace ConnPool

open Pool

theorem Turn.eq_of_failed {n : Nat} {turn : Turn} {e : PoolError}
    (h : turn.ticket n = .failed e) : ∃ a, turn = .done a (.error e) := by
  rcases turn with ⟨a, e' | r⟩ | ⟨a, d⟩
  · cases h
    exact ⟨a, rfl⟩
  · exact nomatch h
  · exact nomatch h

namespace World

variable {S : Type}

/-- A turn of the acquire of ticket `t` ended in scene `s` of pool `n`. -/
structure EndedIn (n t : Nat) (w w' : World S) (site : Site S) (turn : Turn) (s : Scene S) :
    Prop where
  env : w'.env = s.env
  sites : w'.sites = w.sites.set n { site with pool := s.pool, backend := s.backend }
  ticket : w'.tickets[t]? = some (turn.ticket n)

namespace EndedIn

variable {n t : Nat} {w w' : World S} {site : Site S} {turn : Turn} {s : Scene S}

theorem of_endTurn {w₁ : World S} {flag : Option Nat}
    (hw' : w' = (w₁.after n site s).endTurn t n flag turn) (hsites : w₁.sites = w.sites)
    (ht : w₁.tickets[t]? = some .waiting) : EndedIn n t w w' site turn s := by
  rw [hw']
  constructor
  case env => cases turn <;> rfl
  case sites =>
    rw [← hsites]
    cases turn <;> rfl
  case ticket => exact endTurn_ticket n flag turn ht

theorem site_eq (h : EndedIn n t w w' site turn s) (hn : w.sites[n]? = some site) :
    w'.sites[n]? = some { site with pool := s.pool, backend := s.backend } := by
  rw [h.sites]
  exact List.getElem?_set_self (List.getElem?_eq_some_iff.1 hn).1

theorem others (h : EndedIn n t w w' site turn s) {m : Nat} (hm : m ≠ n) :
    w'.sites[m]? = w.sites[m]? := by
  rw [h.sites]
  exact List.getElem?_set_ne hm.symm

end EndedIn

variable [Bench S] {w w' : World S} {n t : Nat} {p : Pool}

/-- What is true of the first turn of an acquire and of the later ones in the scene of the pool is
true of its turn in the world. An acquire that was blocked is interrupted by its own flag. -/
theorem TurnOf.ends_of_flag (h : TurnOf n t w w') (hw : Reachable w) {site : Site S}
    (hn : w.sites[n]? = some site) {P : Turn → Scene S → Prop}
    (hbegin : ∀ raised login, Ends (Pool.begin raised login) (w.scene n site) P)
    (hresume : ∀ v ∈ w.waiters, v.ticket = t →
      Ends (Pool.resume (w.isRaised v.flag) v.began v.acquire) (w.scene n site) P) :
    ∃ turn s, P turn s ∧ EndedIn n t w w' site turn s := by
  cases h with
  | start d flag hd hw' ht =>
    subst ht
    have hticket : w.ticketed.tickets[w.tickets.length]? = some .waiting := by simp [ticketed]
    exact ⟨_, _, hbegin (w.isRaised flag) d.login,
      .of_endTurn (hw'.trans (start_eq hn d.login flag)) rfl hticket⟩
  | resume v hv hvn ht hw' =>
    subst hvn ht
    exact ⟨_, _, hresume v hv rfl,
      .of_endTurn (hw'.trans (resume_eq hn)) rfl (hw.queued.waiting v hv)⟩

/-- So is what is true of them whether or not the acquire is interrupted. -/
theorem TurnOf.ends_of (h : TurnOf n t w w') (hw : Reachable w) {site : Site S}
    (hn : w.sites[n]? = some site) {P : Turn → Scene S → Prop}
    (hbegin : ∀ raised login, Ends (Pool.begin raised login) (w.scene n site) P)
    (hresume : ∀ raised, ∀ v ∈ w.waiters,
      Ends (Pool.resume raised v.began v.acquire) (w.scene n site) P) :
    ∃ turn s, P turn s ∧ EndedIn n t w w' site turn s :=
  h.ends_of_flag hw hn hbegin fun v hv _ => hresume (w.isRaised v.flag) v hv

/-! ## Blocked acquires -/

/-- A turn that starts finds the pool in order. -/
theorem Reachable.starts (hw : Reachable w) (hn : w.pools[n]? = some p) {phase : Phase}
    (hstart : phase.Starts) : Owned w.env p (p.live phase.hand) ∧ Bounded p phase.hand := by
  rw [hstart.hand]
  exact ⟨hw.owners.owned n p hn, hw.pool bounded_invariant hn⟩

/-- An acquire that is blocked has met no bad candidate. -/
theorem Reachable.unspent (hw : Reachable w) {v : Waiter} (hv : v ∈ w.waiters) :
    v.acquire.bad = 0 := by
  induction hw generalizing v with
  | refl => exact absurd hv List.not_mem_nil
  | @tail w w' hw hs ih =>
    replace hw : Reachable w := hw
    have hslept : ∀ {n : Nat} {raised : Bool} {site : Site S} {phase : Phase} {e : Env} {q : Pool}
        {a : Acquire} {d : Span}, w.sites[n]? = some site →
        Seeks n raised ⟨w.env, site.pool, phase⟩ ⟨e, q, .ended (.sleep a d)⟩ → phase.Starts →
          phase.acquire.bad = 0 → a.bad = 0 := by
      intro n raised site phase e q a d hn hseeks hstart hbad
      obtain ⟨ho, hb⟩ := hw.starts (pools_getElem? hn) hstart
      exact (hseeks.untouched hstart ho hb rfl).bad.trans hbad
    rcases hs.calm_or_turn with hc | ⟨n, login, flag, hn, rfl⟩ | ⟨u, hu, rfl⟩
    · obtain ⟨u, hu, heq⟩ := hc.comes hv
      exact (Waiter.of_asleep_eq heq).2.2.2.1 ▸ ih hu
    · have hsite := List.getElem?_eq_getElem hn
      obtain ⟨turn, s, heq, hseeks⟩ := start_turns hsite login flag
      rcases mem_endTurn (heq ▸ hv) with hv | ⟨-, -, -, -, -, d, rfl, -⟩
      · exact ih hv
      · exact hslept hsite hseeks trivial rfl
    · have hsite := List.getElem?_eq_getElem (hw.queued.site u hu)
      obtain ⟨turn, s, heq, hseeks⟩ := resume_turns hsite
      rcases mem_endTurn (heq ▸ hv) with hv | ⟨-, -, -, -, -, d, rfl, -⟩
      · exact ih (mem_without.1 hv).1
      · exact hslept hsite hseeks trivial (ih hu)

/-! ## Courses -/

/-- How a turn of the acquire of ticket `t` went in pool `n`. -/
structure Course (n t : Nat) (w w' : World S) (p : Pool) (phase : Phase) (turn : Turn)
    (p' : Pool) : Prop where
  starts : phase.Starts
  unspent : phase.acquire.bad = 0
  owned : Owned w.env p (p.live phase.hand)
  bounded : Bounded p phase.hand
  seeks : ∃ raised, Seeks n raised ⟨w.env, p, phase⟩ ⟨w'.env, p', .ended turn⟩
  after : w'.pools[n]? = some p'
  ticket : w'.tickets[t]? = some (turn.ticket n)

theorem TurnOf.course (h : TurnOf n t w w') (hw : Reachable w) (hn : w.pools[n]? = some p) :
    ∃ phase turn p', Course n t w w' p phase turn p' := by
  obtain ⟨site, hsite, rfl⟩ := exists_site_of_pools hn
  obtain ⟨turn, s, ⟨raised, phase, hstart, hbad, hseeks⟩, hended⟩ := h.ends_of hw hsite
    (P := fun turn s => ∃ raised phase, phase.Starts ∧ phase.acquire.bad = 0 ∧
      Seeks n raised ⟨w.env, site.pool, phase⟩ ⟨s.env, s.pool, .ended turn⟩)
    (fun raised login => ⟨raised, _, trivial, rfl, (begin_turns raised login (w.scene n site)).2⟩)
    (fun raised v hv => ⟨raised, .woken v.began v.acquire, trivial, hw.unspent hv,
      (Pool.resume_turns raised v.began v.acquire (w.scene n site)).2⟩)
  obtain ⟨ho, hb⟩ := hw.starts hn hstart
  refine ⟨phase, turn, s.pool, hstart, hbad, ho, hb, ⟨raised, ?_⟩, ?_, hended.ticket⟩
  · rw [hended.env]
    exact hseeks
  · exact pools_getElem? (hended.site_eq hsite)

namespace Course

variable {phase : Phase} {turn : Turn} {p' : Pool}

omit [Bench S] in
theorem untouched (h : Course n t w w' p phase turn p') (hturn : turn.inVain = true) :
    Stage.Untouched ⟨w.env, p, phase⟩ ⟨w'.env, p', .ended turn⟩ := by
  obtain ⟨raised, hseeks⟩ := h.seeks
  exact hseeks.untouched h.starts h.owned h.bounded hturn

omit [Bench S] in
theorem sifts (h : Course n t w w' p phase turn p') (hturn : turn.inVain = false) :
    ∃ gone, Stage.Sifts gone ⟨w.env, p, phase⟩ ⟨w'.env, p', .ended turn⟩ := by
  obtain ⟨raised, hseeks⟩ := h.seeks
  exact hseeks.sifts h.starts h.owned h.bounded hturn

end Course

end World

end ConnPool
