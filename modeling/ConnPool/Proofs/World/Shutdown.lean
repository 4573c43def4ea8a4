import ConnPool.Proofs.Pool.Interrupted
import ConnPool.Proofs.World.Custody
import ConnPool.Proofs.World.Queue
import ConnPool.Proofs.World.Waiting

/-!
# Shutdown

A pool that is shut down still lets callers give handles back and change its settings, and acquires
may be blocked on it. None of this brings it back to life. A pool that is closed stays closed, with
nothing in its lists (`shut_invariant`), and a turn of an acquire on it ends at once.

Those who were blocked on the pool were woken, so they are over once the schedule has settled. A
caller may have raised the flag of one of them in the meantime; `refusal` is the error that its flag
calls for.

**Theorem (`shut_down_for_good`).** All this is true in every world after a shutdown.
-/

namespace ConnPool

open Pool

/-! ## Closed pools -/

theorem Seek.closed {n : Nat} {raised : Bool} {g g' : Stage} (st : Seek n raised g g') :
    g'.pool.closed = g.pool.closed := by
  cases st <;> rfl

theorem Yield.closed {n : Nat} {who : Handback} {e e' : Env} {p p' : Pool}
    (y : Yield n who e p e' p') (hc : p.closed = true) : p'.closed = true := by
  cases y with
  | spurn | discard | store | close | letGo | detach => exact hc
  | drain | change => exact (closed_emptied _).trans hc
  | shutDown => exact closed_emptied _

/-- A pool that is closed has nothing in its lists, and no acquire has a candidate in hand. -/
theorem shut_invariant : PoolInvariant fun _ _ p hand =>
    p.closed = true → hand = none ∧ p.active = [] ∧ p.idle = [] where
  empty _ hc := absurd hc Bool.false_ne_true
  later _ h := h
  seek {n raised g g'} st _ h := by
    cases st with
    | rouse | stop | shut | reject | giveUp | interrupted | timeOut | sleep =>
      exact fun hc => ⟨rfl, (h hc).2⟩
    | takeIdle ho | takeOver ho =>
      exact fun hc => absurd (Eq.trans hc.symm ho) Bool.noConfusion
    | refused hroom | openNew hroom =>
      exact fun hc => absurd (Eq.trans hc.symm hroom.isOpen) Bool.noConfusion
    | handOut => exact fun hc => nomatch (h hc).1
  yield {n who e e' p p'} y _ _ h := by
    cases y with
    | spurn | discard | close | letGo | detach =>
      intro hc
      obtain ⟨-, ha, hi⟩ := h hc
      exact ⟨rfl, by change p.active.erase _ = []; rw [ha]; rfl, hi⟩
    | store _ hk =>
      intro hc
      have hopen : p.closed = false := by
        simp only [keeps, Bool.and_eq_true, Bool.not_eq_true'] at hk
        exact hk.1.1
      exact absurd (Eq.trans hc.symm hopen) Bool.noConfusion
    | drain | change | shutDown => exact fun _ => ⟨rfl, active_emptied _, idle_emptied _⟩

/-- A turn asks for no connection if the pool is closed. -/
theorem Seeks.connects_of_closed {n : Nat} {raised : Bool} {g g' : Stage} (hs : Seeks n raised g g')
    (hc : g.pool.closed = true) :
    g'.env.connects = g.env.connects ∧ g'.pool.closed = true := by
  induction hs with
  | refl => exact ⟨rfl, hc⟩
  | tail _ st ih =>
    obtain ⟨he, hc⟩ := ih
    refine ⟨Eq.trans ?_ he, st.closed.trans hc⟩
    rcases st.connects with ⟨hsame, -⟩ | ⟨-, hmore⟩
    · exact hsame
    · cases st with
      | refused hroom | openNew hroom =>
        exact absurd (hc.symm.trans hroom.isOpen) Bool.noConfusion
      | rouse | stop | shut | takeIdle | takeOver | handOut | reject | giveUp | interrupted
      | timeOut | sleep => exact absurd hmore (Nat.ne_of_lt (Nat.lt_succ_self _))

namespace Pool

variable {S : Type} [Backend S] {s : Scene S}

theorem shutDown_closes (s : Scene S) : Ends shutDown s fun _ s' => s'.pool.closed = true := by
  refine .bind <| .look ?_
  by_cases hc : s.pool.closed = true
  · rw [if_pos hc]
    exact .pure hc
  · rw [if_neg hc]
    refine .bind <| .update <| .bind <| .chats (drain_chats _) fun _ s' h =>
      .bind <| .note <| .pure ?_
    rw [h.pool, emptied_eq]

/-- An acquire on a closed pool is refused without a look at the lists. -/
theorem serve_closed (raised : Bool) (a : Acquire) (hc : s.pool.closed = true) :
    serve raised a s = (.done a (.error .closed), s) :=
  search_closed raised _ a hc

theorem begin_closed (raised : Bool) (login : Option (String × String))
    (hc : s.pool.closed = true) :
    Pool.begin raised login s = (.done { login, started := s.env.now } (.error .closed), s) :=
  serve_closed raised _ hc

/-- An acquire that is woken on a closed pool ends, interrupted or refused. -/
theorem resume_closed (raised : Bool) (since : Instant) (a : Acquire) (hc : s.pool.closed = true) :
    Ends (Pool.resume raised since a) s fun turn _ =>
      turn = .done a (.error (if raised then .interrupted else .closed)) := by
  refine .bind <| .now <| .bind <| .count ?_
  cases raised with
  | true => exact .bind <| .note <| .pure rfl
  | false =>
    rw [if_neg Bool.false_ne_true]
    refine congrArg Prod.fst (serve_closed false a ?_)
    exact hc

end Pool

/-! ## Closed pools in a world -/

namespace World

variable {S : Type}

/-- Pool `n` is closed. -/
def IsShut (w : World S) (n : Nat) : Prop := ∃ p, w.pools[n]? = some p ∧ p.closed = true

/-- The error that the flag of an acquire on a closed pool calls for. -/
def refusal (w : World S) (flag : Option Nat) : PoolError :=
  if w.isRaised flag then .interrupted else .closed

/-- If a demand is to be interrupted, then by an interrupt handle of pool `n`. -/
def IsOwn (w : World S) (n : Nat) : Demand → Prop
  | .interruptible i => ∃ interrupt, w.interrupts[i]? = some interrupt ∧ interrupt.site = n
  | .ordinary | .loggedIn .. => True

/-- The world after an acquire was refused by the closed pool `n`. Only what is kept of the acquire
itself is new. -/
def turnedAway (w : World S) (n : Nat) (login : Option (String × String)) : World S :=
  { w with
    tickets := w.tickets ++ [.failed .closed]
    ended :=
      { ticket := w.tickets.length
        site := n
        acquire := { login, started := w.env.now }
        outcome := .error .closed } :: w.ended }

theorem turnedAway_calm (w : World S) (n : Nat) (login : Option (String × String)) :
    Calm w (w.turnedAway n login) := by
  refine ⟨rfl, fun t x hx => .inl ?_, Nat.le_refl _⟩
  rw [turnedAway, List.getElem?_append_left (List.getElem?_eq_some_iff.1 hx).1]
  exact hx

variable [Bench S] {w w' w₁ w₂ : World S} {n : Nat}

theorem IsShut.preserved (h : IsShut w n) (hs : Section w w') : IsShut w' n := by
  obtain ⟨p, hn, hc⟩ := h
  cases hs.shift with
  | aside hb hp => exact ⟨p, hp ▸ hn, hc⟩
  | create settings target _ hb hp => exact ⟨p, pools_append_of_some hp hn, hc⟩
  | @turn m raised q q' phase turn ticket hm hp hphase hseeks =>
    by_cases hmn : n = m
    · subst hmn
      cases Option.some.inj (hm.symm.trans hn)
      exact ⟨q', pools_set_self hm hp, (hseeks.connects_of_closed hc).2⟩
    · exact ⟨p, pools_set_of_ne hp hmn hn, hc⟩
  | @yield m who q q' hb hm hp hgave hy =>
    by_cases hmn : n = m
    · subst hmn
      cases Option.some.inj (hm.symm.trans hn)
      exact ⟨q', pools_set_self hm hp, hy.closed hc⟩
    · exact ⟨p, pools_set_of_ne hp hmn hn, hc⟩

theorem IsShut.connectsOf (h : IsShut w n) (hs : Section w w') :
    w'.env.connectsOf n = w.env.connectsOf n := by
  obtain ⟨p, hn, hc⟩ := h
  cases hs.shift with
  | aside hb | create _ _ _ hb | yield hb => exact Env.connectsOf_congr hb.connects
  | @turn m raised q q' phase turn ticket hm hp hphase hseeks =>
    by_cases hmn : m = n
    · subst hmn
      cases Option.some.inj (hm.symm.trans hn)
      exact Env.connectsOf_congr (hseeks.connects_of_closed hc).1
    · exact hseeks.connectsOf_ne hmn

theorem IsShut.sections (h : IsShut w n) (hs : Sections w w') :
    IsShut w' n ∧ w'.env.connectsOf n = w.env.connectsOf n := by
  induction hs with
  | refl => exact ⟨h, rfl⟩
  | tail _ hs ih => exact ⟨ih.1.preserved hs, (ih.1.connectsOf hs).trans ih.2⟩

/-! ## Acquires on a closed pool -/

/-- A blocked acquire on a closed pool ends in its next turn. -/
theorem IsShut.resume {v : Waiter} (h : IsShut w v.site) (hq : Queued w) (hv : v ∈ w.waiters) :
    (w.resume v).tickets[v.ticket]? = some (.failed (w.refusal v.flag)) := by
  obtain ⟨p, hn, hc⟩ := h
  obtain ⟨site, hsite, rfl⟩ := Option.map_eq_some_iff.1 (List.getElem?_map ▸ hn)
  have hturn : (Pool.resume (w.isRaised v.flag) v.began v.acquire (w.scene v.site site)).1 =
      .done v.acquire (.error (w.refusal v.flag)) := resume_closed _ _ _ hc
  rw [resume_eq hsite, hturn]
  exact List.getElem?_set_self (hq.lt_tickets hv)

/-- An acquire that begins on a closed pool ends at once. -/
theorem IsShut.start (h : IsShut w n) (login : Option (String × String)) (flag : Option Nat) :
    w.start n login flag = w.turnedAway n login := by
  obtain ⟨p, hn, hc⟩ := h
  obtain ⟨site, hsite, rfl⟩ := Option.map_eq_some_iff.1 (List.getElem?_map ▸ hn)
  have hturn : Pool.begin (w.isRaised flag) login (w.scene n site) =
      (.done { login, started := w.env.now } (.error .closed), w.scene n site) :=
    begin_closed _ login hc
  have hsame : w.ticketed.after n site (w.scene n site) = w.ticketed := after_scene hsite
  rw [start_eq hsite, hturn]
  dsimp only
  rw [hsame]
  simp [endTurn, finish, ticketed, turnedAway, Ended.result]

theorem IsShut.demand (h : IsShut w n) {d : Demand} (hd : w.IsOwn n d) :
    w.demand n d = some (w.turnedAway n d.login) := by
  cases d with
  | ordinary | loggedIn => exact congrArg some (h.start _ none)
  | interruptible i =>
    obtain ⟨interrupt, hi, hsite⟩ := hd
    rw [World.demand, hi, Option.map_some, if_pos hsite, h.start]
    rfl

/-- Its answer is that the pool is closed, however long the caller waits for it. -/
theorem IsShut.acquire (h : IsShut w n) (hq : Queued w) {d : Demand} (hd : w.IsOwn n d)
    (wait : Bool) : (w.acquire n d wait).map (·.1) = some (.refused .closed) := by
  have hnew : (w.turnedAway n d.login).tickets[w.tickets.length]? = some (.failed .closed) :=
    List.getElem?_concat_length
  have hq' : Queued (w.turnedAway n d.login) := hq.calm (turnedAway_calm w n d.login)
  have hanswer : ∀ w', Sections (w.turnedAway n d.login) w' →
      w'.answerOf w.tickets.length = .refused .closed := by
    intro w' hs
    rw [answerOf, hq'.failed_sections hs hnew]
  rw [World.acquire, h.demand hd, Option.map_some, Option.map_some]
  refine congrArg some ?_
  cases wait with
  | true => exact hanswer _ ((settle_sections _).trans (driveWithin_sections ..))
  | false => exact hanswer _ (settle_sections _)

/-- What becomes of an acquire that was blocked on the pool. -/
theorem IsShut.blocked (h : IsShut w₁ n) (hq : Queued w₁) (hs : Sections w₁ w₂) {v : Waiter}
    (hv : v ∈ w₁.waiters) (hsite : v.site = n) :
    (∃ u ∈ w₂.waiters, u.asleep = v.asleep) ∨ ∃ u, Sections w₁ u ∧ Sections u w₂ ∧
      w₂.tickets[v.ticket]? = some (.failed (u.refusal v.flag)) := by
  induction hs with
  | refl => exact .inl ⟨v, hv, rfl⟩
  | @tail w w' hs st ih =>
    have hqueued := hq.sections hs
    rcases ih with ⟨u, hu, heq⟩ | ⟨u, hbefore, hafter, ht⟩
    · rcases hqueued.remains st hu with ⟨u', hu', heq'⟩ | rfl
      · exact .inl ⟨u', hu', heq'.trans heq⟩
      · -- This is the turn in which it ends. From then on its ticket stays as it is.
        obtain ⟨ht, hn, hf, -⟩ := Waiter.of_asleep_eq heq
        have hshut : IsShut w u.site := hn.trans hsite ▸ (h.sections hs).1
        refine .inr ⟨w, hs, .single st, ?_⟩
        rw [← ht, ← hf]
        exact hshut.resume hqueued hu
    · exact .inr ⟨u, hbefore, hafter.tail st, hqueued.failed_sections (.single st) ht⟩

/-- Once the schedule has settled, no acquire is blocked on a closed pool. -/
theorem IsShut.settle (hw : Reachable w) (h : IsShut w n) {v : Waiter}
    (hv : v ∈ w.settle.waiters) : v.site ≠ n := by
  rintro rfl
  have hsettled : Reachable w.settle := hw.trans (settle_sections w)
  obtain ⟨p, hn, hc⟩ := (h.sections (settle_sections w)).1
  -- An acquire that was not woken is covered by its pool, and that takes an open one.
  obtain ⟨q, began, wait, hq, -, hcovered⟩ := hsettled.covered hv (settle_unwoken w hv)
  cases Option.some.inj (hn.symm.trans hq)
  exact absurd (hc.symm.trans hcovered.isOpen) Bool.noConfusion

/-! ## Shutdown -/

theorem isShut_of_shutDown {answer : Answer} (h : w.act (.shutDown n) = some (answer, w')) :
    IsShut w' n := by
  obtain ⟨_, -, h⟩ := Option.bind_eq_some_iff.1 h
  obtain ⟨⟨wasOpen, w₁⟩, hact, heq⟩ := Option.map_eq_some_iff.1 h
  obtain ⟨site, hn, -, rfl⟩ := actOn_eq_some hact
  have hself := pools_set_self (pools_getElem? hn)
    (pools_after w n site (Pool.shutDown (w.scene n site)).2)
  cases wasOpen <;> cases heq <;> exact ⟨_, hself, shutDown_closes (w.scene n site)⟩

/-- What is true of pool `n` in a world `w₂` that comes after its shutdown, which left the world
`w₁`. -/
structure StaysShut (n : Nat) (w₁ w₂ : World S) : Prop where
  /-- The pool is closed and there is nothing in its lists. -/
  closed : ∃ site, w₂.sites[n]? = some site ∧ site.pool.closed = true ∧
    site.pool.active = [] ∧ site.pool.idle = []
  /-- The backend was asked for no connection since. -/
  connects : w₂.env.connectsOf n = w₁.env.connectsOf n
  /-- Once the schedule has settled, no acquire is blocked on the pool. -/
  settled : ∀ v ∈ w₂.settle.waiters, v.site ≠ n
  /-- Each acquire that was blocked on it at the time of the shutdown is over by then, with the
  error that its flag called for when it ran. -/
  ended : ∀ v ∈ w₁.waiters, v.site = n → ∃ u, Sections w₁ u ∧ Sections u w₂.settle ∧
    w₂.settle.tickets[v.ticket]? = some (.failed (u.refusal v.flag))
  /-- A new acquire is over at once, and leaves everything else as it was. -/
  demand : ∀ d, w₂.IsOwn n d → w₂.demand n d = some (w₂.turnedAway n d.login)
  /-- Its caller is told that the pool is closed. -/
  acquire : ∀ d wait, w₂.IsOwn n d →
    (w₂.acquire n d wait).map (·.1) = some (.refused .closed)

/-- A shutdown is final. -/
theorem shut_down_for_good {answer : Answer} (hw : Reachable w)
    (h : w.act (.shutDown n) = some (answer, w₁)) (hs : Sections w₁ w₂) : StaysShut n w₁ w₂ := by
  have hw₁ : Reachable w₁ := hw.tail (.step (.act (.shutDown n)) rfl h)
  have hw₂ : Reachable w₂ := hw₁.trans hs
  have hshut₁ : IsShut w₁ n := isShut_of_shutDown h
  obtain ⟨hshut₂, hconnects⟩ := hshut₁.sections hs
  have hsettled : ∀ v ∈ w₂.settle.waiters, v.site ≠ n := fun v => hshut₂.settle hw₂
  constructor
  case closed =>
    obtain ⟨p, hn, hc⟩ := hshut₂
    obtain ⟨-, ha, hi⟩ := hw₂.pool shut_invariant hn hc
    obtain ⟨site, hsite, rfl⟩ := Option.map_eq_some_iff.1 (List.getElem?_map ▸ hn)
    exact ⟨site, hsite, hc, ha, hi⟩
  case connects => exact hconnects
  case settled => exact hsettled
  case ended =>
    intro v hv hsite
    rcases hshut₁.blocked hw₁.queued (hs.trans (settle_sections w₂)) hv hsite with
      ⟨u, hu, heq⟩ | hended
    · exact absurd ((Waiter.of_asleep_eq heq).2.1.trans hsite) (hsettled u hu)
    · exact hended
  case demand => exact fun d hd => hshut₂.demand hd
  case acquire => exact fun d wait hd => hshut₂.acquire hw₂.queued hd wait

/-- The only connection is checked out, and two acquires wait for it. One of them has a flag. -/
def twoBlocked : World Scripted :=
  runAll {} [
    .create {} { settings := { maxActive := 1 }, target := { url := "db" } },
    .interruptHandle 0, .acquire 0 .ordinary false, .acquire 0 .ordinary false,
    .acquire 0 (.interruptible 0) false]

/-- The pool is shut down, and the flag is raised before either of them runs. -/
theorem shut_down_for_good_blocked :
    ∃ answer w₁ w₂, twoBlocked.act (.shutDown 0) = some (answer, w₁) ∧
      w₁.act (.interrupt 0) = some (.done, w₂) ∧
      w₁.waiters.map (fun v => (v.ticket, w₁.refusal v.flag, w₂.refusal v.flag)) =
        [(1, .closed, .closed), (2, .closed, .interrupted)] ∧
      StaysShut 0 w₁ w₂ := by
  have hshut : (twoBlocked.act (.shutDown 0)).isSome = true := by decide +kernel
  obtain ⟨⟨answer, w₁⟩, h₁⟩ := Option.isSome_iff_exists.1 hshut
  have hraised : ∀ x ∈ twoBlocked.act (.shutDown 0), (x.2.act (.interrupt 0)).isSome = true := by
    decide +kernel
  obtain ⟨⟨reply, w₂⟩, h₂⟩ := Option.isSome_iff_exists.1 (hraised _ h₁)
  have hflags : ∀ x ∈ twoBlocked.act (.shutDown 0), ∀ y ∈ x.2.act (.interrupt 0),
      x.2.waiters.map (fun v => (v.ticket, x.2.refusal v.flag, y.2.refusal v.flag)) =
        [(1, .closed, .closed), (2, .closed, .interrupted)] := by decide +kernel
  have hreply : reply = .done := by
    obtain ⟨_, -, heq⟩ := Option.map_eq_some_iff.1 h₂
    exact (congrArg Prod.fst heq).symm
  subst hreply
  refine ⟨answer, w₁, w₂, h₁, h₂, hflags _ h₁ _ h₂, ?_⟩
  exact shut_down_for_good (Reachable.runAll .refl _) h₁
    (.single (.step (.act (.interrupt 0)) rfl h₂))

end World

end ConnPool
