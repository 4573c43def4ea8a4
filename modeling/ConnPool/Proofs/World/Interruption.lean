import ConnPool.Backend.Scripted
import ConnPool.Proofs.Pool.Interrupted
import ConnPool.Proofs.World.Accounting
import ConnPool.Proofs.World.Courses
import ConnPool.Proofs.World.Demands
import ConnPool.Proofs.World.Shutdown

/-!
# Interruption

A caller can acquire a connection with an interrupt handle, raise the handle from elsewhere, and the
acquire gives up. This is meant for waits only: an acquire that finds a connection is to get it,
whether or not its handle is raised. One that waits is to give up in any case, even if it is woken
for a connection that was returned at the same time.

* `start_flag`: an acquire that finds something does not ask for its flag.
* `start_saturated`: one that finds nothing at first, with its flag raised, is over at once.
* `StaysRaised.blocked`: one that is blocked when its flag is raised ends with the error.
* `Run.interrupted`: no other acquire does.

**Theorem (`interruption_ends_waits`).** All this holds of every reachable world, with any number of
acquires that wait, and for every order in which they run.
-/

namespace ConnPool

open Pool

/-- An acquire that is not to be interrupted is left with nothing only by a saturated pool. -/
theorem Seeks.saturated_of_unserved {n : Nat} {g : Stage} {e : Env} {p : Pool} {turn : Turn}
    (hs : Seeks n false g ⟨e, p, .ended turn⟩) (hstart : g.phase.Starts)
    (h : turn.isUnserved = true) : p.Saturated e.now := by
  obtain ⟨g₁, -, st⟩ := hs.last hstart
  cases st with
  | stop hr | interrupted _ hr => exact nomatch hr
  | timeOut hp | sleep hp => exact ⟨hp.isOpen, hp.idle, hp.full, hp.fresh⟩
  | shut | refused | handOut | giveUp => exact nomatch h

namespace World

variable {S : Type}

/-- The world after an acquire was interrupted at once by the saturated pool `n`. The pool counts
one more acquire that had to wait, and what else is new is kept of the acquire. -/
def stoppedAtOnce (w : World S) (n : Nat) (site : Site S) : World S :=
  { w with
    env := w.env.note .interrupted
    sites := w.sites.set n { site with
      pool := { site.pool with
        tally := { site.pool.tally with waits := site.pool.tally.waits + 1 } } }
    tickets := w.tickets ++ [.failed .interrupted]
    ended :=
      { ticket := w.tickets.length
        site := n
        acquire := { login := none, started := w.env.now, waitCounted := true }
        outcome := .error .interrupted } :: w.ended }

variable [Bench S] {w w' w₁ w₂ : World S} {n t f : Nat} {site : Site S} {past : List (World S)}

/-! ## Acquires that begin -/

theorem demand_interruptible {i : Nat} {x : Interrupt} (hx : w.interrupts[i]? = some x)
    (hsite : x.site = n) :
    w.demand n (.interruptible i) = some (w.start n none (some x.flag)) := by
  rw [demand, hx, Option.map_some, if_pos hsite]

omit [Bench S] in
/-- Only an acquire that falls asleep takes its flag along. -/
theorem endTurn_flag (w : World S) (t n : Nat) {turn : Turn} (flag flag' : Option Nat)
    (h : turn.isUnserved = false) : w.endTurn t n flag turn = w.endTurn t n flag' turn := by
  cases turn with
  | done => rfl
  | sleep => exact nomatch h

/-- An acquire that finds something does not ask for its flag. -/
theorem start_flag (hn : w.sites[n]? = some site) {login : Option (String × String)}
    (flag : Option Nat)
    (h : (Pool.begin false login (w.scene n site)).1.isUnserved = false) :
    w.start n login flag = w.start n login none := by
  rw [start_eq hn, start_eq hn, begin_flag (w.isRaised flag) h]
  exact endTurn_flag _ _ _ _ _ h

/-- An acquire that is left with nothing in its first turn, and is not to be interrupted, has found
the pool saturated. -/
theorem findsNothing_of_unserved (hn : w.sites[n]? = some site)
    (h : (Pool.begin false none (w.scene n site)).1.isUnserved = true) :
    FindsNothing n w.tickets.length w (w.start n none none) := by
  have hticket : w.ticketed.tickets[w.tickets.length]? = some .waiting :=
    List.getElem?_concat_length
  have hended : EndedIn n w.tickets.length w (w.start n none none) site
      (Pool.begin false none (w.scene n site)).1 (Pool.begin false none (w.scene n site)).2 :=
    .of_endTurn (start_eq hn none none) rfl hticket
  have hsaturated :=
    (begin_turns false none (w.scene n site)).2.saturated_of_unserved trivial h
  refine ⟨.start .ordinary none rfl rfl rfl, ⟨_, pools_getElem? (hended.site_eq hn), ?_⟩,
    _, hended.ticket, (Turn.isUnserved_ticket n _).trans h⟩
  rw [hended.env]
  exact hsaturated

/-- An acquire that finds nothing at first, with its flag raised, is over at once. -/
theorem start_saturated (hn : w.sites[n]? = some site) (h : site.pool.Saturated w.env.now)
    {flag : Option Nat} (hraised : w.isRaised flag = true) :
    w.start n none flag = w.stoppedAtOnce n site := by
  rw [start_eq hn, hraised, begin_saturated none (s := w.scene n site) h]
  simp [endTurn, finish, after, ticketed, stoppedAtOnce, Ended.result, counted, scene]

/-! ## Acquires that are blocked -/

/-- A blocked acquire whose flag is raised ends in its next turn. -/
theorem resume_interrupted (hw : Reachable w) {v : Waiter} (hv : v ∈ w.waiters)
    (hraised : w.isRaised v.flag = true) :
    (w.resume v).tickets[v.ticket]? = some (.failed .interrupted) := by
  rw [resume_eq (List.getElem?_eq_getElem (hw.queued.site v hv)), hraised, resume_raised]
  exact List.getElem?_set_self (hw.queued.lt_tickets hv)

/-- Critical sections in which nobody resets flag `f`, which is raised. -/
abbrev StaysRaised (f : Nat) : World S → World S → Prop :=
  Relation.ReflTransGen fun u u' => Section u u' ∧ u'.isRaised (some f) = true

theorem StaysRaised.sections (hs : StaysRaised f w₁ w₂) : Sections w₁ w₂ := by
  induction hs with
  | refl => exact .refl
  | tail _ st ih => exact ih.tail st.1

theorem StaysRaised.raised (hs : StaysRaised f w₁ w₂) (h : w₁.isRaised (some f) = true) :
    w₂.isRaised (some f) = true := by
  cases hs with
  | refl => exact h
  | tail _ st => exact st.2

/-- The acquires that run when the schedule settles leave the flags alone. -/
theorem settleWithin_raised (turns : Nat) (hw : Reachable w) (h : w.isRaised (some f) = true) :
    StaysRaised f w (settleWithin turns w) := by
  induction turns generalizing w with
  | zero => exact .refl
  | succ turns ih =>
    unfold settleWithin
    split
    · exact .refl
    · next v hnext =>
      have hv := next_mem hnext
      have hs : Section w (w.resume v) := .resume hv
      have hsame := resume_unsignalled (hw.queued.site v hv)
      have hraised := (isRaised_congr hsame.flags (some f)).trans h
      exact .head ⟨hs, hraised⟩ (ih (hw.tail hs) hraised)

/-- An acquire that is blocked while its flag is raised stays blocked or ends with the error. -/
theorem StaysRaised.blocked (hs : StaysRaised f w₁ w₂) (hw : Reachable w₁)
    (h : w₁.isRaised (some f) = true) {v : Waiter} (hv : v ∈ w₁.waiters)
    (hflag : v.flag = some f) :
    (∃ u ∈ w₂.waiters, u.asleep = v.asleep) ∨
      w₂.tickets[v.ticket]? = some (.failed .interrupted) := by
  induction hs with
  | refl => exact .inl ⟨v, hv, rfl⟩
  | @tail w w' hs st ih =>
    have hs : StaysRaised f w₁ w := hs
    have hreach : Reachable w := hw.trans hs.sections
    rcases ih with ⟨u, hu, heq⟩ | hended
    · rcases hreach.queued.remains st.1 hu with ⟨u', hu', heq'⟩ | rfl
      · exact .inl ⟨u', hu', heq'.trans heq⟩
      · obtain ⟨hticket, -, huflag, -⟩ := Waiter.of_asleep_eq heq
        have hraised : w.isRaised u.flag = true := by
          rw [huflag, hflag]
          exact hs.raised h
        exact .inr (hticket ▸ resume_interrupted hreach hu hraised)
    · exact .inr (hreach.queued.failed_sections (.single st.1) hended)

/-- It has ended with the error once the schedule has settled. -/
theorem settle_interrupted (hw : Reachable w) {i : Nat} {x : Interrupt}
    (hx : w.interrupts[i]? = some x) {v : Waiter} (hv : v ∈ w.waiters)
    (hflag : v.flag = some x.flag) :
    ∃ w₁, w.act (.interrupt i) = some (.done, w₁) ∧ ∀ w₂, StaysRaised x.flag w₁ w₂ →
      w₂.settle.tickets[v.ticket]? = some (.failed .interrupted) := by
  have hact : w.act (.interrupt i) = some (.done, (w.setFlag x true).wakeAll x.site) := by
    rw [act, hx]
    rfl
  refine ⟨_, hact, fun w₂ hs => ?_⟩
  have hraise : Section w ((w.setFlag x true).wakeAll x.site) :=
    .step (.act (.interrupt i)) rfl hact
  have hw₁ : Reachable ((w.setFlag x true).wakeAll x.site) := hw.tail hraise
  have hraised : ((w.setFlag x true).wakeAll x.site).isRaised (some x.flag) = true :=
    isRaised_setFlag_self true (hw.flagged.lt x (List.mem_of_getElem? hx))
  have hw₂ : Reachable w₂ := hw₁.trans hs.sections
  have hsettles : StaysRaised x.flag ((w.setFlag x true).wakeAll x.site) w₂.settle :=
    hs.trans (settleWithin_raised w₂.settleBound hw₂ (hs.raised hraised))
  obtain ⟨v', hv', heq⟩ := (act_calm hact).remains hv
  obtain ⟨hticket, -, hvflag, -⟩ := Waiter.of_asleep_eq heq
  rw [← hticket]
  refine (hsettles.blocked hw₁ hraised hv' (hvflag.trans hflag)).resolve_left ?_
  rintro ⟨u, hu, heq⟩
  -- It would be one that nobody woke, and nobody woke it though its flag is raised.
  have hsettled : Reachable w₂.settle := hw₂.trans (settle_sections w₂)
  have hdown := hsettled.heeded hu (settle_unwoken w₂ hu)
  have huflag := (Waiter.of_asleep_eq heq).2.2.1
  rw [huflag, hvflag, hflag] at hdown
  exact nomatch (hsettles.raised hraised).symm.trans hdown

/-! ## Acquires that are interrupted -/

omit [Bench S] in
/-- The turn with which an acquire is interrupted finds its flag raised. -/
theorem raised_of_endTurn {g : Stage} {s : Scene S} {flag : Option Nat} {turn : Turn}
    {w₀ : World S} (ht : (w₀.endTurn t n flag turn).tickets[t]? = some (.failed .interrupted))
    (hwaiting : w₀.tickets[t]? = some .waiting)
    (hs : Seeks n (w.isRaised flag) g ⟨s.env, s.pool, .ended turn⟩) (hstart : g.phase.Starts) :
    w.isRaised flag = true := by
  rw [endTurn_ticket n flag turn hwaiting] at ht
  obtain ⟨a, rfl⟩ := Turn.eq_of_failed (Option.some.inj ht)
  exact hs.raised_of_interrupted hstart

theorem raised_of_start {login : Option (String × String)} {flag : Option Nat}
    (ht : (w.start n login flag).tickets[w.tickets.length]? = some (.failed .interrupted)) :
    w.isRaised flag = true := by
  have hnew : w.ticketed.tickets[w.tickets.length]? = some .waiting := List.getElem?_concat_length
  cases hn : w.sites[n]? with
  | none =>
    rw [start_none hn] at ht
    exact nomatch hnew.symm.trans ht
  | some site =>
    obtain ⟨turn, s, heq, hseeks⟩ := start_turns hn login flag
    rw [heq] at ht
    exact raised_of_endTurn ht hnew hseeks trivial

theorem raised_of_resume {v : Waiter} (hw : Reachable w) (hv : v ∈ w.waiters)
    (ht : (w.resume v).tickets[v.ticket]? = some (.failed .interrupted)) :
    w.isRaised v.flag = true := by
  obtain ⟨turn, s, heq, hseeks⟩ :=
    resume_turns (List.getElem?_eq_getElem (hw.queued.site v hv))
  rw [heq] at ht
  exact raised_of_endTurn ht (hw.queued.waiting v hv) hseeks trivial

theorem Run.asked_raised (hr : Run w past) {d : Demand}
    (hraised : w.isRaised (w.flagOf d) = true) :
    ∃ f, w.flagOf d = some f ∧ ∃ m ∈ moves w past, Raises f m.1 m.2 := by
  cases hf : w.flagOf d with
  | none =>
    rw [hf] at hraised
    exact nomatch hraised
  | some f => exact ⟨f, rfl, hr.raised (hf ▸ hraised)⟩

/-- An acquire that ends with the error was started with an interrupt handle that was raised. -/
theorem Run.interrupted (hr : Run w past) {d : Demand} (h : Asked n t d w past)
    (ht : w.tickets[t]? = some (.failed .interrupted)) :
    ∃ f, w.flagOf d = some f ∧ ∃ m ∈ moves w past, Raises f m.1 m.2 := by
  induction hr with
  | start => exact nomatch ht
  | @next w w' past hr hs ih =>
    have hw := hr.reachable
    -- What was found out about the earlier world is still so.
    have hlater : w'.flagOf d = w.flagOf d →
        (∃ f, w.flagOf d = some f ∧ ∃ m ∈ moves w past, Raises f m.1 m.2) →
        ∃ f, w'.flagOf d = some f ∧ ∃ m ∈ moves w' (w :: past), Raises f m.1 m.2 := by
      rintro hsame ⟨f, hf, m, hm, hraises⟩
      exact ⟨f, hsame.trans hf, m, List.mem_cons_of_mem _ hm, hraises⟩
    rcases asked_next.1 h with ⟨hd, rfl⟩ | hold
    · rcases demand_flag hd with ⟨rfl, -⟩ | ⟨cause, rfl⟩
      · exact hlater (flagOf_congr (start_unsignalled w n d.login _).interrupts d)
          (hr.asked_raised (raised_of_start ht))
      · have hrefused : (w.refuse n (.configuration cause)).tickets[w.tickets.length]? =
            some (.failed (.configuration cause)) := by
          simp [refuse, finish, Ended.result]
        cases hrefused.symm.trans ht
    · refine hlater (hr.asked_flagOf hold hs) ?_
      have hlt := hr.asked_lt hold
      rcases hs.calm_or_turn with hc | ⟨m, login, flag, hm, rfl⟩ | ⟨u, hu, rfl⟩
      · rcases hc.tickets t _ (List.getElem?_eq_getElem hlt) with hsame | ⟨m, r, -, hspent⟩
        · exact ih hold ((List.getElem?_eq_getElem hlt).trans (hsame.symm.trans ht))
        · cases hspent.symm.trans ht
      · obtain ⟨turn, p', hturned⟩ := start_turned (List.getElem?_eq_getElem hm) login flag
        exact ih hold ((hturned.others t (Nat.ne_of_lt hlt)).symm.trans ht)
      · have hsite := List.getElem?_eq_getElem (hw.queued.site u hu)
        by_cases htu : t = u.ticket
        · subst htu
          have hraised := raised_of_resume hw hu ht
          rw [(hr.asked_blocked hu hold).2] at hraised
          exact hr.asked_raised hraised
        · obtain ⟨turn, p', hturned⟩ := resume_turned hw hu hsite
          exact ih hold ((hturned.others t htu).symm.trans ht)

/-! ## Interruption -/

/-- What interrupt handles can do in a world to which a run led. -/
structure EndsWaits (w : World S) (past : List (World S)) : Prop where
  /-- If an ordinary acquire ends without a wait and finds the pool saturated at no time, one with
  an interrupt handle of the pool does the same, raised or not. -/
  served : ∀ n i w₁, w.IsOwn n (.interruptible i) → w.demand n .ordinary = some w₁ →
    ¬FindsNothing n w.tickets.length w w₁ →
      w.demand n (.interruptible i) = some w₁ ∧
        ∀ wait, w.acquire n (.interruptible i) wait = w.acquire n .ordinary wait
  /-- If the pool is open and saturated, an acquire whose handle is raised is over at once, and
  makes no difference to the pool but that it is counted. -/
  atOnce : ∀ n site i x, w.sites[n]? = some site → site.pool.Saturated w.env.now →
    w.interrupts[i]? = some x → x.site = n → w.isRaised (some x.flag) = true →
      w.demand n (.interruptible i) = some (w.stoppedAtOnce n site)
  /-- If the handle of a blocked acquire is raised, or another one with the same flag, the acquire
  is over once the schedule has settled. Anything may happen before that, as long as nobody resets
  the flag. -/
  blocked : ∀ v ∈ w.waiters, ∀ n i x, Asked n v.ticket (.interruptible i) w past →
    w.interrupts[i]? = some x → ∀ j y, w.interrupts[j]? = some y → y.flag = x.flag →
      ∃ w₁, w.act (.interrupt j) = some (.done, w₁) ∧ ∀ w₂, StaysRaised x.flag w₁ w₂ →
        w₂.settle.tickets[v.ticket]? = some (.failed .interrupted)
  /-- An acquire that ended with the error was started with an interrupt handle, and this one was
  raised, or another one with the same flag. -/
  only : ∀ n t d, Asked n t d w past → w.tickets[t]? = some (.failed .interrupted) →
    ∃ i x, d = .interruptible i ∧ w.interrupts[i]? = some x ∧
      ∃ m ∈ moves w past, Raises x.flag m.1 m.2

/-- An interrupt handle ends the waits of its acquires, and does nothing else to them. -/
theorem interruption_ends_waits (hr : Run w past) : EndsWaits w past where
  served n i w₁ hown hd hfinds := by
    obtain ⟨x, hx, hsite⟩ := hown
    cases hd
    have hsame : w.demand n (.interruptible i) = w.demand n .ordinary := by
      rw [demand_interruptible hx hsite]
      cases hn : w.sites[n]? with
      | none => exact congrArg some ((start_none hn ..).trans (start_none hn ..).symm)
      | some site =>
        refine congrArg some (start_flag hn (some x.flag) (Bool.eq_false_iff.2 fun h => ?_))
        exact hfinds (findsNothing_of_unserved hn h)
    refine ⟨hsame, fun wait => ?_⟩
    rw [acquire, hsame, acquire]
  atOnce n site i x hn hp hx hsite hraised := by
    rw [demand_interruptible hx hsite, start_saturated hn hp hraised]
  blocked v hv n i x hasked hx j y hy hflag := by
    have hvflag : v.flag = some y.flag := by
      rw [(hr.asked_blocked hv hasked).2, flagOf, hx, hflag]
      rfl
    rw [← hflag]
    exact settle_interrupted hr.reachable hy hv hvflag
  only n t d hasked ht := by
    obtain ⟨f, hf, hraises⟩ := hr.interrupted hasked ht
    cases d with
    | ordinary | loggedIn => cases hf
    | interruptible i =>
      obtain ⟨x, hx, rfl⟩ := Option.map_eq_some_iff.1 hf
      exact ⟨i, x, rfl, hx, hraises⟩

/-- The only connection is checked out. Two acquires wait for it, and the first of them has an
interrupt handle, of which there is a clone. -/
def oneInterruptible : World Scripted :=
  runAll {} [
    .create {} { settings := { maxActive := 1 }, target := { url := "db" } },
    .acquire 0 .ordinary false, .interruptHandle 0, .cloneInterrupt 0,
    .acquire 0 (.interruptible 0) false, .acquire 0 .ordinary false]

/-- The clone is raised and then the connection is returned, before either of them runs. The first
one is interrupted, and the other one gets the connection. -/
theorem interruption_ends_waits_freed :
    ∃ past w₁ w₂, Run oneInterruptible past ∧ EndsWaits oneInterruptible past ∧
      oneInterruptible.act (.interrupt 1) = some (.done, w₁) ∧
      w₁.act (.release 0) = some (.done, w₂) ∧
      w₂.settle.tickets[1]? = some (.failed .interrupted) ∧
      (w₂.settle.held? 2).isSome = true := by
  have hw : Reachable oneInterruptible := Reachable.runAll .refl _
  obtain ⟨past, hr⟩ := hw.exists_run
  have hends := interruption_ends_waits hr
  -- The acquire that waits first, and its demand.
  have hsome : (oneInterruptible.waiters[0]?).isSome = true := by decide +kernel
  obtain ⟨v, hv⟩ := Option.isSome_iff_exists.1 hsome
  have hfirst : ∀ v ∈ oneInterruptible.waiters[0]?, v.ticket = 1 ∧ v.flag = some 0 := by
    decide +kernel
  obtain ⟨hticket, hflag⟩ := hfirst v hv
  have hmem := List.mem_of_getElem? hv
  obtain ⟨d, hasked, -⟩ := hr.asked hmem
  have hdemand := (hr.asked_blocked hmem hasked).2
  cases d with
  | ordinary | loggedIn => exact nomatch hflag.symm.trans hdemand
  | interruptible i =>
    obtain ⟨x, hx, hxflag⟩ := Option.map_eq_some_iff.1 (hdemand.symm.trans hflag)
    -- The clone, which has the same flag.
    have hclone : ∀ y ∈ oneInterruptible.interrupts[1]?, y.flag = 0 := by decide +kernel
    have hclones : (oneInterruptible.interrupts[1]?).isSome = true := by decide +kernel
    obtain ⟨y, hy⟩ := Option.isSome_iff_exists.1 hclones
    obtain ⟨w₁, hraise, hover⟩ :=
      hends.blocked v hmem _ i x hasked hx 1 y hy ((hclone y hy).trans hxflag.symm)
    have hreturns : ∀ z ∈ oneInterruptible.act (.interrupt 1),
        (z.2.act (.release 0)).isSome = true ∧ ∀ z' ∈ z.2.act (.release 0),
          z'.2.isRaised (some 0) = true ∧ (z'.2.settle.held? 2).isSome = true := by decide +kernel
    obtain ⟨hreturn, hserved⟩ := hreturns _ hraise
    obtain ⟨⟨answer, w₂⟩, hrelease⟩ := Option.isSome_iff_exists.1 hreturn
    obtain ⟨hraised, hheld⟩ := hserved _ hrelease
    have hstays : StaysRaised x.flag w₁ w₂ :=
      .single ⟨.step (.act (.release 0)) rfl hrelease, hxflag ▸ hraised⟩
    obtain ⟨_, _, _, _, -, heq, -⟩ := act_release hrelease
    subst heq
    exact ⟨past, w₁, w₂, hr, hends, hraise, hrelease, hticket ▸ hover w₂ hstays, hheld⟩

end World

end ConnPool
