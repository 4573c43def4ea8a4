import ConnPool.Proofs.Pool.Tally
import ConnPool.Proofs.World.Deals
import ConnPool.Proofs.World.Invariant

/-!
# Turns of acquires

`Section` says that some acquire has a turn, and `Seeks` says what a turn does to its pool. `TurnOf`
names the acquire by its ticket, and `Turned` has the two sides together: how the turn went in the
pool, and what became of the ticket.

* `Section.calm_or_turnOf`: a critical section is the turn of an acquire, or none has a turn.
* `Reachable.waitCounted`: an acquire that is blocked was counted among those that had to wait.
* `Turned.keeps_held`: a turn takes no handle from a caller's ticket.

**Theorem (`TurnOf.turned`).** Every turn at a pool comes to something.
-/

namespace ConnPool

/-- What a turn at pool `n` makes of the ticket of its acquire. -/
def Turn.ticket (n : Nat) : Turn → Ticket
  | .sleep .. => .waiting
  | .done _ (.ok r) => .held n r
  | .done _ (.error e) => .failed e

/-- The ticket of an acquire that found nothing: it waits, or was told that it waited in vain. -/
def Ticket.isUnserved : Ticket → Bool
  | .waiting | .failed .interrupted | .failed (.timeout _) => true
  | _ => false

theorem Turn.isUnserved_ticket (n : Nat) (turn : Turn) :
    (turn.ticket n).isUnserved = turn.isUnserved := by
  rcases turn with ⟨a, e | r⟩ | ⟨a, d⟩
  · cases e <;> rfl
  · rfl
  · rfl

namespace World

open Pool

variable {S : Type}

theorem endTurn_ticket {w : World S} {t : Nat} (n : Nat) (flag : Option Nat) (turn : Turn)
    (ht : w.tickets[t]? = some .waiting) :
    (w.endTurn t n flag turn).tickets[t]? = some (turn.ticket n) := by
  cases turn with
  | sleep => exact ht
  | done a outcome =>
    have hset := List.getElem?_set_self (List.getElem?_eq_some_iff.1 ht).1
      (a := Ended.result ⟨t, n, a, outcome⟩)
    cases outcome <;> exact hset

/-- A turn that ends with a handle has its acquire counted among those that did. -/
theorem lent_endTurn {w : World S} {t : Nat} (n : Nat) (flag : Option Nat) (turn : Turn)
    (ht : w.tickets[t]? = some .waiting) :
    ((w.endTurn t n flag turn).lent n).Perm (turn.handed ++ w.lent n) := by
  rcases turn with ⟨a, e | r⟩ | ⟨a, d⟩
  · have hsame : (Ticket.failed e).handle? n = Ticket.waiting.handle? n := rfl
    exact .of_eq (filterMap_set_same ht hsame)
  · have hnew : (Ticket.held n r).handle? n = some r := if_pos rfl
    exact filterMap_set_new ht rfl hnew
  · exact .refl _

theorem length_endTurn (w : World S) (t n : Nat) (flag : Option Nat) (turn : Turn) :
    (w.endTurn t n flag turn).tickets.length = w.tickets.length := by
  cases turn with
  | sleep => rfl
  | done => exact List.length_set ..

variable [Bench S] {w w' : World S} {n t : Nat} {p p' : Pool} {phase : Phase} {turn : Turn}

/-- The acquire of ticket `t` has a turn at pool `n`. -/
inductive TurnOf (n t : Nat) (w w' : World S) : Prop
  /-- It is started. -/
  | start (d : Demand) (flag : Option Nat) (hd : w.demand n d = some w')
      (hw : w' = w.start n d.login flag) (ht : t = w.tickets.length)
  /-- It was blocked, and runs again. -/
  | resume (v : Waiter) (hv : v ∈ w.waiters) (hn : v.site = n) (ht : v.ticket = t)
      (hw : w' = w.resume v)

/-- What comes of a turn of the acquire of ticket `t` at pool `n`. -/
structure Turned (n t : Nat) (w w' : World S) (p : Pool) (phase : Phase) (turn : Turn)
    (p' : Pool) : Prop where
  after : w'.pools[n]? = some p'
  starts : phase.Starts
  awaited : phase.Awaited
  seeks : ∃ raised, Seeks n raised ⟨w.env, p, phase⟩ ⟨w'.env, p', .ended turn⟩
  ticket : w'.tickets[t]? = some (turn.ticket n)
  others : ∀ u, u ≠ t → w'.tickets[u]? = w.tickets[u]?
  lent : (w'.lent n).Perm (turn.handed ++ w.lent n)
  /-- The acquire is new, or was blocked and is known to have waited. -/
  stands :
    (t = w.tickets.length ∧ w'.tickets.length = t + 1 ∧ phase.acquire.waitCounted = false) ∨
      (w.tickets[t]? = some .waiting ∧ w'.tickets.length = w.tickets.length ∧
        phase.acquire.waitCounted = true)
  waiters : ∀ v ∈ w'.waiters, v ∈ w.waiters ∨
    v.ticket = t ∧ v.site = n ∧ ∃ d, turn = .sleep v.acquire d

omit [Bench S] in
/-- The turn of an acquire that left the queue, or that got a ticket, and did nothing else yet. -/
theorem Turned.of_endTurn {w₁ : World S} {site : Site S} {s : Scene S} {flag : Option Nat}
    {raised : Bool} (hw' : w' = (w₁.after n site s).endTurn t n flag turn)
    (hn : w₁.sites[n]? = some site)
    (hs : Seeks n raised ⟨w.env, site.pool, phase⟩ ⟨s.env, s.pool, .ended turn⟩)
    (hstart : phase.Starts) (hawaited : phase.Awaited) (ht : w₁.tickets[t]? = some .waiting)
    (hothers : ∀ u, u ≠ t → w₁.tickets[u]? = w.tickets[u]?) (hlent : w₁.lent n = w.lent n)
    (hstands : (t = w.tickets.length ∧ w₁.tickets.length = t + 1 ∧
        phase.acquire.waitCounted = false) ∨
      (w.tickets[t]? = some .waiting ∧ w₁.tickets.length = w.tickets.length ∧
        phase.acquire.waitCounted = true))
    (hwaiters : ∀ v ∈ w₁.waiters, v ∈ w.waiters) :
    Turned n t w w' site.pool phase turn s.pool := by
  have hlen : w'.tickets.length = w₁.tickets.length := by
    rw [hw', length_endTurn]
    rfl
  constructor
  case after =>
    rw [hw']
    have hpools : (w₁.after n site s).pools[n]? = some s.pool :=
      pools_set_self (pools_getElem? hn) (pools_after w₁ n site s)
    cases turn <;> exact hpools
  case starts => exact hstart
  case awaited => exact hawaited
  case seeks =>
    have henv : w'.env = s.env := by
      rw [hw']
      cases turn <;> rfl
    exact ⟨raised, henv ▸ hs⟩
  case ticket =>
    rw [hw']
    exact endTurn_ticket n flag turn ht
  case others =>
    intro u hu
    rw [hw', endTurn_tickets_ne _ n flag turn hu]
    exact hothers u hu
  case lent =>
    rw [hw', ← hlent]
    exact lent_endTurn n flag turn ht
  case stands => rwa [hlen]
  case waiters =>
    intro v hv
    rw [hw'] at hv
    rcases mem_endTurn hv with hv | ⟨hticket, hsite, -, -, -, d, hturn, -⟩
    · exact .inl (hwaiters v hv)
    · exact .inr ⟨hticket, hsite, d, hturn⟩

/-! ## Blocked acquires -/

omit [Bench S] in
/-- A turn that ends with a wait found nothing, and the acquire knows that. -/
theorem seeks_sleep {raised : Bool} {g : Stage} {e : Env} {p : Pool} {a : Acquire} {d : Span}
    (hs : Seeks n raised g ⟨e, p, .ended (.sleep a d)⟩) (hstart : g.phase.Starts) :
    a.waitCounted = true ∧ p.Saturated e.now := by
  obtain ⟨g₁, -, st⟩ := hs.last hstart
  cases st with
  | sleep h => exact ⟨rfl, h.isOpen, h.idle, h.full, h.fresh⟩

theorem Reachable.waitCounted (hw : Reachable w) {v : Waiter} (hv : v ∈ w.waiters) :
    v.acquire.waitCounted = true := by
  induction hw generalizing v with
  | refl => exact absurd hv List.not_mem_nil
  | @tail w w' hw hs ih =>
    rcases hs.calm_or_turn with hc | ⟨n, login, flag, hn, rfl⟩ | ⟨u, hu, rfl⟩
    · obtain ⟨u, hu, heq⟩ := hc.comes hv
      exact (Waiter.of_asleep_eq heq).2.2.2.1 ▸ ih hu
    · obtain ⟨turn, s, heq, hseeks⟩ := start_turns (List.getElem?_eq_getElem hn) login flag
      rcases mem_endTurn (heq ▸ hv) with hv | ⟨-, -, -, -, -, d, rfl, -⟩
      · exact ih hv
      · exact (seeks_sleep hseeks trivial).1
    · have hsite := (Reachable.queued hw).site u hu
      obtain ⟨turn, s, heq, hseeks⟩ := resume_turns (List.getElem?_eq_getElem hsite)
      rcases mem_endTurn (heq ▸ hv) with hv | ⟨-, -, -, -, -, d, rfl, -⟩
      · exact ih (mem_without.1 hv).1
      · exact (seeks_sleep hseeks trivial).1

/-! ## Turns come to something -/

theorem start_turned {site : Site S} (hn : w.sites[n]? = some site)
    (login : Option (String × String)) (flag : Option Nat) :
    ∃ turn p', Turned n w.tickets.length w (w.start n login flag) site.pool
      (.seeking { login, started := w.env.now }) turn p' := by
  obtain ⟨turn, s, heq, hseeks⟩ := start_turns hn login flag
  refine ⟨turn, s.pool, .of_endTurn heq hn hseeks trivial trivial ?_ ?_ (lent_ticketed w n)
    (.inl ⟨rfl, ?_, rfl⟩) fun v hv => hv⟩
  · simp [ticketed]
  · intro u hu
    rw [ticketed]
    rcases Nat.lt_or_gt_of_ne hu with hlt | hgt
    · exact List.getElem?_append_left hlt
    · rw [List.getElem?_eq_none (Nat.le_of_lt hgt), List.getElem?_eq_none]
      rw [List.length_append]
      exact hgt
  · simp [ticketed]

theorem resume_turned (hw : Reachable w) {v : Waiter} (hv : v ∈ w.waiters) {site : Site S}
    (hn : w.sites[v.site]? = some site) :
    ∃ turn p', Turned v.site v.ticket w (w.resume v) site.pool (.woken v.began v.acquire)
      turn p' := by
  obtain ⟨turn, s, heq, hseeks⟩ := resume_turns hn
  have hcounted := hw.waitCounted hv
  have hwaiting := hw.queued.waiting v hv
  exact ⟨turn, s.pool, .of_endTurn heq hn hseeks trivial hcounted hwaiting (fun _ _ => rfl) rfl
    (.inr ⟨hwaiting, rfl, hcounted⟩) fun u hu => (mem_without.1 hu).1⟩

theorem TurnOf.turned (h : TurnOf n t w w') (hw : Reachable w) (hn : w.pools[n]? = some p) :
    ∃ phase turn p', Turned n t w w' p phase turn p' := by
  obtain ⟨site, hsite, rfl⟩ := exists_site_of_pools hn
  cases h with
  | start d flag hd hw' ht =>
    subst hw' ht
    exact ⟨_, start_turned hsite d.login flag⟩
  | resume v hv hvn ht hw' =>
    subst hvn ht hw'
    exact ⟨_, resume_turned hw hv hsite⟩

/-- A critical section is the turn of an acquire, or none has a turn. -/
theorem Section.calm_or_turnOf (hw : Reachable w) (hs : Section w w') :
    Calm w w' ∨ ∃ n t p, TurnOf n t w w' ∧ w.pools[n]? = some p := by
  cases hs with
  | step s hs h => exact .inl (takeOne_calm hs h)
  | pass t => exact .inl (.of_same rfl rfl (Nat.le_refl _))
  | @resume v hv =>
    have hsite := List.getElem?_eq_getElem (hw.queued.site v hv)
    exact .inr ⟨_, _, _, .resume v hv rfl rfl rfl, pools_getElem? hsite⟩
  | start n d hn h =>
    rcases demand_cases h with ⟨flag, hw'⟩ | ⟨cause, rfl⟩
    · obtain ⟨site, hsite⟩ := Option.isSome_iff_exists.1 hn
      exact .inr ⟨n, _, _, .start d flag h hw' rfl,
        pools_getElem? (Option.filter_eq_some_iff.1 hsite).1⟩
    · exact .inl (refuse_calm w n _)

namespace Turned

variable (h : Turned n t w w' p phase turn p')
include h

omit [Bench S] in
/-- A handle that a caller has stays where it is in the turn of an acquire. -/
theorem keeps_held {u m : Nat} {r : Ref} (hu : w.tickets[u]? = some (.held m r)) :
    w'.tickets[u]? = some (.held m r) := by
  have hne : u ≠ t := by
    rintro rfl
    rcases h.stands with ⟨hlen, -⟩ | ⟨hwaiting, -⟩
    · rw [List.getElem?_eq_none (Nat.le_of_eq hlen.symm)] at hu
      exact nomatch hu
    · exact nomatch hwaiting.symm.trans hu
  exact (h.others u hne).trans hu

end Turned

end World

end ConnPool
