import ConnPool.Backend.Scripted
import ConnPool.Proofs.Pool.Budget
import ConnPool.Proofs.World.Capacity
import ConnPool.Proofs.World.Queue
import ConnPool.Proofs.World.Waiting

/-!
# Acquires and their time

An acquire that finds nothing may be woken any number of times by what others give back, and find
nothing again. Each of its turns reckons what is left of its time from the end of the first one,
since an acquire that has anything to do with a wait finds nothing in its first turn.

`InBudget` is what holds at the end of each turn. The settings of the pool have to stay the same
(`Steadily`): an acquire looks at those in force when it runs.

**Theorem (`waits_within_budget`).** Every turn of an acquire ends within its budget, whatever
others do in the meantime.
-/

namespace ConnPool.World

open Pool

variable {S : Type}

/-- The settings of pool `n`. -/
def settingsOf (w : World S) (n : Nat) : Option Settings := w.pools[n]?.map (·.settings)

/-- Pool `n` has nothing to serve an acquire with. -/
def IsBusy (w : World S) (n : Nat) : Prop := ∃ p, w.pools[n]? = some p ∧ p.Busy w.env.now

/-- Critical sections during which pool `n` has the settings `s`. -/
abbrev Steadily [Bench S] (n : Nat) (s : Settings) : World S → World S → Prop :=
  Relation.ReflTransGen fun w w' => Section w w' ∧ w'.settingsOf n = some s

/-- What is true in a world in which a turn of the acquire of ticket `t` has just ended. Its pool
`n` has the settings `s`, and its first turn ended at `t₀`. -/
structure InBudget [Bench S] (n : Nat) (s : Settings) (t : Nat) (t₀ : Instant) (w : World S) :
    Prop where
  /-- The acquire is told that it waited for too long only if its time was limited and is used up,
  and if there is nothing to serve it. -/
  timeout : ∀ x, w.tickets[t]? = some (.failed (.timeout x)) →
    s.indefiniteWait = false ∧ x = s.waitTimeout ∧ t₀ + s.waitTimeout ≤ w.env.now ∧ w.IsBusy n
  /-- A wait begins when there is nothing to serve it. It is to last for some time `d`: if the time
  of the acquire is limited, not beyond its end; else for a millisecond at least. -/
  wait : ∀ v ∈ w.waiters, v.ticket = t → v.began = w.env.now ∧ w.IsBusy n ∧
    ∃ d, v.deadline = Instant.deadline v.began d ∧
      (s.indefiniteWait = false → 0 < d ∧ v.began + d ≤ t₀ + s.waitTimeout) ∧
      (s.indefiniteWait = true → Span.milli ≤ d)
  /-- Once its time is used up the acquire is over, and is never blocked again. -/
  ended : s.indefiniteWait = false → t₀ + s.waitTimeout ≤ w.env.now →
    w.isWaiting t = false ∧ ∀ w', Sections w w' → ∀ v ∈ w'.waiters, v.ticket ≠ t

/-- What is true of a blocked acquire between its turns. -/
structure Reckons (n : Nat) (s : Settings) (t : Nat) (t₀ : Instant) (w : World S) : Prop where
  settings : w.settingsOf n = some s
  now : t₀ ≤ w.env.now
  known : ∃ x, w.tickets[t]? = some x
  /-- It reckons from the end of its first turn. -/
  since : ∀ v ∈ w.waiters, v.ticket = t →
    v.site = n ∧ (s.indefiniteWait = false → v.acquire.waitBegan = some t₀)

theorem settingsOf_eq {w : World S} {n : Nat} {site : Site S} {s : Settings}
    (hn : w.sites[n]? = some site) (hs : w.settingsOf n = some s) : site.pool.settings = s := by
  rw [settingsOf, pools_getElem? hn] at hs
  exact Option.some.inj hs

theorem isWaiting_of_ne {w : World S} {t : Nat} {x : Ticket} (ht : w.tickets[t]? = some x)
    (hx : x ≠ .waiting) : w.isWaiting t = false := by
  rw [isWaiting, ht]
  cases x with
  | waiting => exact absurd rfl hx
  | failed | held | spent => rfl

variable [Bench S] {w w' : World S} {n t : Nat} {s : Settings} {t₀ : Instant}

/-! ## One turn -/

/-- The end of a turn, in a world `w` with the pool as the turn left it. -/
theorem InBudget.endTurn {p : Pool} {turn : Turn} {flag : Option Nat}
    (hw : Reachable (w.endTurn t n flag turn)) (hn : w.pools[n]? = some p)
    (hr : p.Reckoned w.env.now t₀ turn) (ht : w.tickets[t]? = some .waiting)
    (hnot : ∀ v ∈ w.waiters, v.ticket ≠ t) :
    InBudget n p.settings t t₀ (w.endTurn t n flag turn) := by
  have henv : (w.endTurn t n flag turn).env = w.env := by cases turn <;> rfl
  have hpools : (w.endTurn t n flag turn).pools[n]? = some p := by cases turn <;> exact hn
  have hbusy : p.Saturated w.env.now → (w.endTurn t n flag turn).IsBusy n := by
    intro hsat
    have ho := hw.pool ordered_invariant hpools
    rw [henv] at ho
    exact ⟨p, hpools, henv ▸ hsat.busy (hw.pool bounded_invariant hpools) ho⟩
  have hended : ∀ a outcome, turn = .done a outcome →
      (w.endTurn t n flag turn).tickets[t]? = some (Ended.result ⟨t, n, a, outcome⟩) := by
    rintro a outcome rfl
    exact List.getElem?_set_self (List.getElem?_eq_some_iff.1 ht).1
  constructor
  case timeout =>
    intro x hx
    cases turn with
    | sleep => exact nomatch ht.symm.trans hx
    | done a outcome =>
      have hresult := Option.some.inj ((hended a outcome rfl).symm.trans hx)
      cases outcome with
      | ok r => exact nomatch hresult
      | error e =>
        cases hresult
        obtain ⟨hsat, hlimited, hspan, hup⟩ := hr.timedOut a x rfl
        exact ⟨hlimited, hspan, hup, hbusy hsat⟩
  case wait =>
    intro v hv hvt
    rcases mem_endTurn hv with hv | ⟨-, -, -, hbegan, -, d, hturn, hd⟩
    · exact absurd hvt (hnot v hv)
    · obtain ⟨hsat, hlimited, hindefinite⟩ := hr.asleep _ _ hturn
      rw [henv, hbegan]
      exact ⟨rfl, hbusy hsat, d, hd, fun h => ⟨(hlimited h).1, (hlimited h).2.1⟩, hindefinite⟩
  case ended =>
    intro hlimited hup
    rw [henv] at hup
    cases turn with
    | sleep a d =>
      -- A wait would take some time, and would still end within what is used up.
      obtain ⟨-, hwait, -⟩ := hr.asleep a d rfl
      obtain ⟨hpos, hle, -⟩ := hwait hlimited
      have hlate : w.env.now + d ≤ w.env.now := Nat.le_trans hle hup
      exact absurd hlate (Nat.not_le_of_lt (Nat.lt_add_of_pos_right hpos))
    | done a outcome =>
      have hover : Ended.result ⟨t, n, a, outcome⟩ ≠ .waiting := by cases outcome <;> exact nofun
      have hself := hended a outcome rfl
      exact ⟨isWaiting_of_ne hself hover, fun w' hs => hw.queued.over_sections hs hself hover⟩

/-- A turn ends in budget, and if it ends with a wait the acquire goes on reckoning from `t₀`. -/
theorem Reckons.turn {site : Site S} {sc : Scene S} {turn : Turn} {flag : Option Nat}
    {raised : Bool} {e : Env} {phase : Phase} {b : Option Instant}
    (hw : Reachable ((w.after n site sc).endTurn t n flag turn)) (hn : w.sites[n]? = some site)
    (hseeks : Seeks n raised ⟨e, site.pool, phase⟩ ⟨sc.env, sc.pool, .ended turn⟩)
    (hstart : phase.Starts) (hb : phase.Since b) (hset : site.pool.settings = s)
    (hzero : t₀ ≤ sc.env.now) (hsince : s.indefiniteWait = false → b.getD sc.env.now = t₀)
    (ht : w.tickets[t]? = some .waiting) (hnot : ∀ v ∈ w.waiters, v.ticket ≠ t) :
    InBudget n s t t₀ ((w.after n site sc).endTurn t n flag turn) ∧
      Reckons n s t t₀ ((w.after n site sc).endTurn t n flag turn) := by
  have hsame : sc.pool.settings = s := hseeks.settings.trans hset
  have hpool : (w.after n site sc).pools[n]? = some sc.pool :=
    pools_set_self (pools_getElem? hn) (pools_after w n site sc)
  have hr : sc.pool.Reckoned sc.env.now t₀ turn :=
    hseeks.reckoned hstart hb hzero (hsame.symm ▸ hsince)
  have hbudget : InBudget n sc.pool.settings t t₀ ((w.after n site sc).endTurn t n flag turn) :=
    .endTurn hw hpool hr ht hnot
  refine ⟨hsame ▸ hbudget, ?_⟩
  constructor
  case settings =>
    rw [← hsame]
    cases turn <;> exact congrArg (·.map (·.settings)) hpool
  case now => cases turn <;> exact hzero
  case known =>
    cases turn with
    | done => exact ⟨_, List.getElem?_set_self (List.getElem?_eq_some_iff.1 ht).1⟩
    | sleep => exact ⟨_, ht⟩
  case since =>
    intro v hv hvt
    rcases mem_endTurn hv with hv | ⟨-, hsite, -, -, -, d, hturn, -⟩
    · exact absurd hvt (hnot v hv)
    · exact ⟨hsite, fun hlimited => ((hr.asleep _ _ hturn).2.1 (hsame ▸ hlimited)).2.2⟩

/-! ## From turn to turn -/

/-- The first turn. The instant from which the acquire reckons is the end of it. -/
theorem start_inBudget (hw : Reachable w) (hset : w.settingsOf n = some s)
    (login : Option (String × String)) (flag : Option Nat)
    (hw' : Reachable (w.start n login flag)) :
    InBudget n s w.tickets.length (w.start n login flag).env.now (w.start n login flag) ∧
      Reckons n s w.tickets.length (w.start n login flag).env.now (w.start n login flag) := by
  obtain ⟨p, hn, -⟩ := Option.map_eq_some_iff.1 hset
  obtain ⟨site, hsite, rfl⟩ := Option.map_eq_some_iff.1 (List.getElem?_map ▸ hn)
  obtain ⟨turn, sc, heq, hseeks⟩ := start_turns hsite login flag
  have henv : (w.start n login flag).env = sc.env := by rw [heq]; cases turn <;> rfl
  rw [henv, heq]
  rw [heq] at hw'
  refine Reckons.turn hw' hsite hseeks trivial rfl (settingsOf_eq hsite hset) (Nat.le_refl _)
    (fun _ => rfl) List.getElem?_concat_length fun v hv => ?_
  exact Nat.ne_of_lt (hw.queued.lt_tickets hv)

/-- A later turn. -/
theorem Reckons.resume (h : Reckons n s t t₀ w) (hw : Reachable w) {v : Waiter}
    (hv : v ∈ w.waiters) (ht : v.ticket = t) :
    InBudget n s t t₀ (w.resume v) ∧ Reckons n s t t₀ (w.resume v) := by
  obtain ⟨hsite, hsince⟩ := h.since v hv ht
  subst ht hsite
  have hn := List.getElem?_eq_getElem (hw.queued.site v hv)
  obtain ⟨turn, sc, heq, hseeks⟩ := resume_turns hn
  have hw' : Reachable (w.resume v) := hw.tail (.resume hv)
  rw [heq] at hw' ⊢
  refine Reckons.turn hw' hn hseeks trivial rfl (settingsOf_eq hn h.settings)
    (Nat.le_trans h.now hseeks.grows.now) (fun hlimited => ?_) (hw.queued.waiting v hv)
    fun u hu => (mem_without.1 hu).2
  rw [hsince hlimited]
  rfl

theorem Reckons.preserved (h : Reckons n s t t₀ w) (hw : Reachable w) (hs : Section w w')
    (hset : w'.settingsOf n = some s) : Reckons n s t t₀ w' := by
  obtain ⟨x, hx⟩ := h.known
  constructor
  case settings => exact hset
  case now => exact Nat.le_trans h.now hs.shift.grows.now
  case known => exact (hw.queued.becomes hs hx).imp fun _ => And.left
  case since =>
    intro v hv ht
    -- It slept through this section, or had a turn in it; it did not start just now.
    rcases hw.queued.comes hs hv with ⟨u, hu, heq⟩ | ⟨u, hu, hut, rfl⟩ | hnew
    · obtain ⟨hticket, hsite, -, hacquire, -⟩ := Waiter.of_asleep_eq heq
      rw [← hsite, ← hacquire]
      exact h.since u hu (hticket.trans ht)
    · exact (h.resume hw hu (hut.trans ht)).2.since v hv ht
    · have hlt := (List.getElem?_eq_some_iff.1 hx).1
      exact absurd (ht.symm.trans hnew) (Nat.ne_of_lt hlt)

/-- An acquire that is refused before it comes to the pool does not wait. -/
theorem refuse_inBudget (hw : Reachable w) (hset : w.settingsOf n = some s) (e : Misconfiguration)
    (hw' : Reachable (w.refuse n (.configuration e))) :
    InBudget n s w.tickets.length w.env.now (w.refuse n (.configuration e)) ∧
      Reckons n s w.tickets.length w.env.now (w.refuse n (.configuration e)) := by
  have hself : (w.refuse n (.configuration e)).tickets[w.tickets.length]? =
      some (.failed (.configuration e)) :=
    List.getElem?_set_self (by rw [List.length_append]; exact Nat.lt_succ_self _)
  have hnot : ∀ v ∈ w.waiters, v.ticket ≠ w.tickets.length := fun v hv =>
    Nat.ne_of_lt (hw.queued.lt_tickets hv)
  constructor
  case left =>
    constructor
    case timeout => exact fun x hx => nomatch hself.symm.trans hx
    case wait => exact fun v hv hvt => absurd hvt (hnot v hv)
    case ended =>
      exact fun _ _ => ⟨isWaiting_of_ne hself nofun, fun w₂ hs =>
        hw'.queued.over_sections hs hself nofun⟩
  case right =>
    exact ⟨hset, Nat.le_refl _, ⟨_, hself⟩, fun v hv hvt => absurd hvt (hnot v hv)⟩

/-! ## The budget -/

/-- Let an acquire start on pool `n` with the settings `s`, and let its first turn end in the world
`w₁`. As long as the settings stay the same, this turn and each later one ends in budget. -/
theorem waits_within_budget {w₀ w₁ : World S} {d : Demand} (hw : Reachable w₀)
    (hn : (w₀.site? n).isSome = true) (hset : w₀.settingsOf n = some s)
    (hd : w₀.demand n d = some w₁) :
    InBudget n s w₀.tickets.length w₁.env.now w₁ ∧
      ∀ w, Steadily n s w₁ w → ∀ v ∈ w.waiters, v.ticket = w₀.tickets.length →
        InBudget n s w₀.tickets.length w₁.env.now (w.resume v) := by
  have hw₁ : Reachable w₁ := hw.tail (.start n d hn hd)
  have hfirst : InBudget n s w₀.tickets.length w₁.env.now w₁ ∧
      Reckons n s w₀.tickets.length w₁.env.now w₁ := by
    rcases demand_cases hd with ⟨flag, rfl⟩ | ⟨cause, rfl⟩
    · exact start_inBudget hw hset d.login flag hw₁
    · exact refuse_inBudget hw hset cause hw₁
  refine ⟨hfirst.1, fun w hs v hv ht => ?_⟩
  have hreckons : Reachable w ∧ Reckons n s w₀.tickets.length w₁.env.now w := by
    clear hv
    induction hs with
    | refl => exact ⟨hw₁, hfirst.2⟩
    | tail _ hs ih => exact ⟨ih.1.tail hs.1, ih.2.preserved ih.1 hs.1 hs.2⟩
  exact (hreckons.2.resume hreckons.1 hv ht).1

/-- The settings of a pool with one connection, for which an acquire waits ten nanoseconds. -/
def tenNanos : Settings := { maxActive := 1, waitTimeout := 10 }

/-- The only connection of a pool is checked out. -/
def oneOut : World Scripted :=
  runAll {} [.create {} { settings := tenNanos, target := { url := "db" } },
    .acquire 0 .ordinary false]

/-- A second acquire waits for it. -/
def oneAsleep : World Scripted :=
  oneOut.start 0 none none

/-- It is woken for nothing after three nanoseconds, and has seven of them left. -/
theorem waits_within_budget_woken :
    ∃ v ∈ (oneAsleep.passTo 3).waiters,
      ((oneAsleep.passTo 3).resume v).waiters.map (fun u => (u.began, u.deadline)) =
        [(3, some 10)] ∧
      InBudget 0 tenNanos 1 0 ((oneAsleep.passTo 3).resume v) := by
  obtain ⟨v, hv, ht, hagain⟩ : ∃ v ∈ (oneAsleep.passTo 3).waiters, v.ticket = 1 ∧
      ((oneAsleep.passTo 3).resume v).waiters.map (fun u => (u.began, u.deadline)) =
        [(3, some 10)] := by decide +kernel
  have hticket : oneOut.tickets.length = 1 := by decide +kernel
  have hnow : oneAsleep.env.now = 0 := by decide +kernel
  have hsame : (oneAsleep.passTo 3).settingsOf 0 = some tenNanos := by decide +kernel
  have hbudget : InBudget 0 tenNanos oneOut.tickets.length oneAsleep.env.now
      ((oneAsleep.passTo 3).resume v) :=
    (waits_within_budget (d := .ordinary) (Reachable.runAll .refl _)
      (by decide +kernel) (by decide +kernel) rfl).2 (oneAsleep.passTo 3)
      (.single ⟨.pass 3, hsame⟩) v hv (ht.trans hticket.symm)
  rw [hticket, hnow] at hbudget
  exact ⟨v, hv, hagain, hbudget⟩

end ConnPool.World
