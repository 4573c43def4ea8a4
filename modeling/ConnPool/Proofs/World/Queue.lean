import ConnPool.Proofs.World.Shift

/-!
# The queue of blocked acquires

A blocked acquire leaves the queue by a turn of its own and in no other way: to be woken only marks
it, and the turns of others and the steps of callers leave it where it is. So what is to be known of
an acquire over a whole run can be told turn by turn.

* `Calm`: a critical section in which no acquire has a turn.
* `Queued`: each waiting ticket is in the queue at most once. It holds of every reachable world.
* `Queued.remains`, `Queued.comes`: what a critical section does to the queue, forwards and
  backwards.
* `Queued.becomes`: what it does to the tickets.

**Theorem (`settle_unwoken`).** Once the acquires that were woken have run, none of those that still
wait is marked.
-/

namespace ConnPool

/-- A blocked acquire as it was when its wait began, woken or not. -/
def Waiter.asleep (v : Waiter) : Waiter := { v with woken := false }

theorem Waiter.of_asleep_eq {u v : Waiter} (h : u.asleep = v.asleep) :
    u.ticket = v.ticket ∧ u.site = v.site ∧ u.flag = v.flag ∧ u.acquire = v.acquire ∧
      u.began = v.began ∧ u.deadline = v.deadline := by
  simpa [asleep] using h

/-- What a ticket may be later on. An acquire that waits may come to anything; once it is over, all
that is left to happen is that its caller gives the handle up. -/
inductive Ticket.Becomes : Ticket → Ticket → Prop
  | same (x : Ticket) : Becomes x x
  | ended (y : Ticket) : Becomes .waiting y
  | spent (n : Nat) (r : Ref) : Becomes (.held n r) (.spent n r)

namespace Ticket.Becomes

variable {x y z : Ticket}

theorem trans (h₁ : x.Becomes y) (h₂ : y.Becomes z) : x.Becomes z := by
  cases h₁ with
  | same => exact h₂
  | ended => exact .ended z
  | spent n r =>
    cases h₂ with
    | same => exact .spent n r

/-- No acquire waits again that is over. -/
theorem eq_waiting (h : x.Becomes .waiting) : x = .waiting := by
  cases h <;> rfl

/-- An error stays. -/
theorem eq_failed {e : PoolError} (h : (Ticket.failed e).Becomes y) : y = .failed e := by
  cases h with
  | same => rfl

end Ticket.Becomes

namespace World

open Pool

variable {S : Type}

/-! ## Turns -/

/-- The world after the turn of an acquire ended. -/
def endTurn (w : World S) (ticket n : Nat) (flag : Option Nat) : Turn → World S
  | .done acquire outcome => w.finish { ticket, site := n, acquire, outcome }
  | .sleep acquire wait =>
    let began := w.env.now
    { w with
      waiters := w.waiters ++
        [{ ticket, site := n, flag, acquire, began, deadline := Instant.deadline began wait }] }

/-- The world in which a blocked acquire has left the queue. -/
def without (w : World S) (v : Waiter) : World S :=
  { w with waiters := w.waiters.filter (·.ticket != v.ticket) }

/-- The world in which a new ticket was given out. -/
def ticketed (w : World S) : World S := { w with tickets := w.tickets ++ [Ticket.waiting] }

theorem play_eq {w : World S} {ticket n : Nat} {flag : Option Nat} {site : Site S}
    (turn : Bool → Act S Turn) (hn : w.sites[n]? = some site) :
    w.play ticket n flag turn =
      (w.after n site (turn (w.isRaised flag) (w.scene n site)).2).endTurn ticket n flag
        (turn (w.isRaised flag) (w.scene n site)).1 := by
  have hact : w.actOn n (turn (w.isRaised flag)) =
      some ((turn (w.isRaised flag) (w.scene n site)).1,
        w.after n site (turn (w.isRaised flag) (w.scene n site)).2) := by
    rw [actOn, hn]
    rfl
  rw [play, hact]
  cases (turn (w.isRaised flag) (w.scene n site)).1 <;> rfl

/-- Where there is no pool there is no turn. -/
theorem play_none {w : World S} {ticket n : Nat} {flag : Option Nat} {turn : Bool → Act S Turn}
    (hn : w.sites[n]? = none) : w.play ticket n flag turn = w := by
  rw [play, actOn, hn, Option.map_none]

theorem endTurn_tickets_ne (w : World S) {ticket t : Nat} (n : Nat) (flag : Option Nat)
    (turn : Turn) (hne : t ≠ ticket) :
    (w.endTurn ticket n flag turn).tickets[t]? = w.tickets[t]? := by
  cases turn with
  | done => exact List.getElem?_set_ne hne.symm
  | sleep => rfl

/-- Only the acquire whose turn it was may have come into the queue. -/
theorem mem_endTurn {w : World S} {ticket n : Nat} {flag : Option Nat} {turn : Turn} {v : Waiter}
    (hv : v ∈ (w.endTurn ticket n flag turn).waiters) :
    v ∈ w.waiters ∨ v.ticket = ticket ∧ v.site = n ∧ v.flag = flag ∧ v.began = w.env.now ∧
      v.woken = false ∧ ∃ wait, turn = .sleep v.acquire wait ∧
        v.deadline = Instant.deadline w.env.now wait := by
  cases turn with
  | done => exact .inl hv
  | sleep acquire wait =>
    rcases List.mem_append.1 hv with hv | hv
    · exact .inl hv
    · rw [List.mem_singleton.1 hv]
      exact .inr ⟨rfl, rfl, rfl, rfl, rfl, wait, rfl, rfl⟩

theorem subset_endTurn {w : World S} {ticket n : Nat} {flag : Option Nat} {turn : Turn} {v : Waiter}
    (hv : v ∈ w.waiters) : v ∈ (w.endTurn ticket n flag turn).waiters := by
  cases turn with
  | done => exact hv
  | sleep => exact List.mem_append_left _ hv

theorem mem_without {w : World S} {v u : Waiter} :
    u ∈ (w.without v).waiters ↔ u ∈ w.waiters ∧ u.ticket ≠ v.ticket := by
  simp [without]

/-! ## Critical sections without a turn -/

/-- No acquire has a turn: those that are blocked stay so, and of the others none changes but that
callers give handles up. -/
structure Calm (w w' : World S) : Prop where
  waiters : w'.waiters.map Waiter.asleep = w.waiters.map Waiter.asleep
  tickets : ∀ (t : Nat) (x : Ticket), w.tickets[t]? = some x →
    w'.tickets[t]? = some x ∨ ∃ n r, x = .held n r ∧ w'.tickets[t]? = some (.spent n r)
  sites : w.sites.length ≤ w'.sites.length

namespace Calm

variable {w w₁ w₂ : World S}

theorem of_same (hv : w₁.waiters = w.waiters) (ht : w₁.tickets = w.tickets)
    (hs : w.sites.length ≤ w₁.sites.length) : Calm w w₁ :=
  ⟨by rw [hv], fun t x hx => .inl (ht ▸ hx), hs⟩

theorem refl (w : World S) : Calm w w := .of_same rfl rfl (Nat.le_refl _)

theorem trans (h₁ : Calm w w₁) (h₂ : Calm w₁ w₂) : Calm w w₂ := by
  refine ⟨h₂.waiters.trans h₁.waiters, fun t x hx => ?_, Nat.le_trans h₁.sites h₂.sites⟩
  rcases h₁.tickets t x hx with hx | ⟨n, r, heq, hspent⟩
  · exact h₂.tickets t x hx
  · refine .inr ⟨n, r, heq, (h₂.tickets t _ hspent).resolve_right ?_⟩
    exact fun ⟨_, _, hne, _⟩ => nomatch hne

theorem after (w : World S) (n : Nat) (site : Site S) (s : Scene S) : Calm w (w.after n site s) :=
  .of_same rfl rfl (Nat.le_of_eq (List.length_set ..).symm)

theorem wakeAll (h : Calm w w₁) (n : Nat) : Calm w (w₁.wakeAll n) := by
  refine ⟨Eq.trans ?_ h.waiters, h.tickets, h.sites⟩
  rw [World.wakeAll, List.map_map]
  refine List.map_congr_left fun v _ => ?_
  dsimp only [Function.comp]
  split <;> rfl

theorem spend {t n : Nat} {r : Ref} (h : Calm w w₁) (ht : w₁.tickets[t]? = some (.held n r)) :
    Calm w (w₁.spend t n r) := by
  refine h.trans ⟨rfl, fun u x hx => ?_, Nat.le_refl _⟩
  by_cases hu : u = t
  · subst hu
    refine .inr ⟨n, r, Option.some.inj (hx.symm.trans ht), ?_⟩
    exact List.getElem?_set_self (List.getElem?_eq_some_iff.1 ht).1
  · exact .inl ((List.getElem?_set_ne (Ne.symm hu)).trans hx)

theorem waiting (h : Calm w w₁) {t : Nat} (ht : w.tickets[t]? = some .waiting) :
    w₁.tickets[t]? = some .waiting :=
  (h.tickets t _ ht).resolve_right fun ⟨_, _, hx, _⟩ => nomatch hx

/-- The same acquires are blocked. -/
theorem comes (h : Calm w w₁) {v : Waiter} (hv : v ∈ w₁.waiters) :
    ∃ u ∈ w.waiters, u.asleep = v.asleep :=
  List.mem_map.1 (h.waiters ▸ List.mem_map_of_mem hv)

theorem remains (h : Calm w w₁) {v : Waiter} (hv : v ∈ w.waiters) :
    ∃ u ∈ w₁.waiters, u.asleep = v.asleep :=
  List.mem_map.1 (h.waiters.symm ▸ List.mem_map_of_mem hv)

end Calm

/-! ## The queue -/

/-- Each blocked acquire is in the queue once, and waits for a pool that there is. -/
structure Queued (w : World S) : Prop where
  nodup : (w.waiters.map (·.ticket)).Nodup
  waiting : ∀ v ∈ w.waiters, w.tickets[v.ticket]? = some .waiting
  site : ∀ v ∈ w.waiters, v.site < w.sites.length

theorem queued_empty : Queued ({} : World S) where
  nodup := List.nodup_nil
  waiting _ hv := absurd hv List.not_mem_nil
  site _ hv := absurd hv List.not_mem_nil

namespace Queued

variable {w w' : World S}

theorem eq_of_ticket (h : Queued w) {u v : Waiter} (hu : u ∈ w.waiters) (hv : v ∈ w.waiters)
    (ht : u.ticket = v.ticket) : u = v :=
  List.inj_on_of_nodup_map h.nodup hu hv ht

theorem calm (h : Queued w) (hc : Calm w w') : Queued w' := by
  have htickets : w'.waiters.map (·.ticket) = w.waiters.map (·.ticket) := by
    have heq := congrArg (List.map Waiter.ticket) hc.waiters
    simpa only [List.map_map, Function.comp_def, Waiter.asleep] using heq
  refine ⟨htickets ▸ h.nodup, fun v hv => ?_, fun v hv => ?_⟩
  · obtain ⟨u, hu, heq⟩ := hc.comes hv
    exact hc.waiting ((Waiter.of_asleep_eq heq).1 ▸ h.waiting u hu)
  · obtain ⟨u, hu, heq⟩ := hc.comes hv
    exact Nat.lt_of_lt_of_le ((Waiter.of_asleep_eq heq).2.1 ▸ h.site u hu) hc.sites

/-- The queue after the turn of an acquire that was not in it. -/
theorem endTurn (h : Queued w) {ticket n : Nat} (hn : n < w.sites.length)
    (ht : w.tickets[ticket]? = some .waiting) (hnot : ∀ v ∈ w.waiters, v.ticket ≠ ticket)
    (flag : Option Nat) (turn : Turn) : Queued (w.endTurn ticket n flag turn) := by
  cases turn with
  | done acquire outcome =>
    refine ⟨h.nodup, fun v hv => ?_, h.site⟩
    exact (List.getElem?_set_ne (hnot v hv).symm).trans (h.waiting v hv)
  | sleep acquire wait =>
    refine ⟨?_, fun v hv => ?_, fun v hv => ?_⟩
    · rw [World.endTurn, List.map_append, List.map_singleton]
      refine List.nodup_append.2 ⟨h.nodup, List.nodup_singleton _, fun a ha b hb heq => ?_⟩
      obtain ⟨v, hv, rfl⟩ := List.mem_map.1 ha
      exact hnot v hv (heq.trans (List.mem_singleton.1 hb))
    all_goals rcases List.mem_append.1 hv with hv | hv
    · exact h.waiting v hv
    · rw [List.mem_singleton.1 hv]
      exact ht
    · exact h.site v hv
    · rw [List.mem_singleton.1 hv]
      exact hn

theorem without (h : Queued w) (v : Waiter) : Queued (w.without v) where
  nodup := h.nodup.sublist (List.filter_sublist.map _)
  waiting u hu := h.waiting u (mem_without.1 hu).1
  site u hu := h.site u (mem_without.1 hu).1

theorem lt_tickets (h : Queued w) {v : Waiter} (hv : v ∈ w.waiters) :
    v.ticket < w.tickets.length :=
  (List.getElem?_eq_some_iff.1 (h.waiting v hv)).1

theorem ticketed (h : Queued w) : Queued w.ticketed :=
  h.calm ⟨rfl, fun t x hx => .inl <| by
    rw [World.ticketed, List.getElem?_append_left (List.getElem?_eq_some_iff.1 hx).1]
    exact hx, Nat.le_refl _⟩

end Queued

/-! ## What keeps the queue calm -/

theorem Calm.actOn {α : Type} {w w' : World S} {n : Nat} {act : Act S α} {a : α}
    (h : w.actOn n act = some (a, w')) : Calm w w' := by
  obtain ⟨site, -, -, rfl⟩ := actOn_eq_some h
  exact .after w n site _

theorem create_calm (w : World S) (backend : S) (source : Properties.Source) :
    Calm w (w.create backend source).2 := by
  unfold create
  split
  · exact .refl w
  · refine .of_same rfl rfl ?_
    rw [List.length_append]
    exact Nat.le_add_right ..

theorem createFrom_calm (w : World S) (backend : S) (text : String) :
    Calm w (w.createFrom backend text).2 := by
  have hnotes : ∀ (keys : List String) (w : World S),
      Calm w (keys.foldl (fun w key => w.note (.keyIgnored key)) w) := by
    intro keys
    induction keys with
    | nil => exact .refl
    | cons key rest ih =>
      intro w
      have hfirst : Calm w (w.note (.keyIgnored key)) := .of_same rfl rfl (Nat.le_refl _)
      exact hfirst.trans (ih _)
  unfold createFrom
  dsimp only
  split
  · exact hnotes _ w
  · exact (hnotes _ w).trans (create_calm ..)

variable [Bench S] {w w' : World S}

theorem use_calm {n conn : Nat} {u : Use (Bench.Order S)} {answer : Answer}
    (h : w.use n conn u = some (answer, w')) : Calm w w' := by
  cases u with
  | ask question | tell command =>
    obtain ⟨⟨outcome, w₁⟩, h, heq⟩ := Option.map_eq_some_iff.1 h
    have hcalm := Calm.actOn h
    cases outcome <;> cases heq <;> exact hcalm
  | order order =>
    obtain ⟨site, -, h⟩ := Option.bind_eq_some_iff.1 h
    obtain ⟨⟨reply, backend⟩, -, heq⟩ := Option.map_eq_some_iff.1 h
    cases heq
    exact .of_same rfl rfl (Nat.le_of_eq (List.length_set ..).symm)
  | look =>
    cases h
    exact .refl w

theorem withConnection_calm {ticket : Nat} {u : Use (Bench.Order S)} {answer : Answer}
    (h : w.withConnection ticket u = some (answer, w')) : Calm w w' := by
  obtain ⟨⟨n, r, handle⟩, -, h⟩ := Option.bind_eq_some_iff.1 h
  dsimp only at h
  split at h
  · exact use_calm h
  · cases h
    exact .refl w

theorem act_calm {action : Action (Bench.Order S)} {answer : Answer}
    (h : w.act action = some (answer, w')) : Calm w w' := by
  cases action with
  | release ticket =>
    obtain ⟨n, r, site, hheld, -, -, rfl⟩ := act_release h
    exact ((Calm.after w n site _).spend (tickets_of_held? hheld).1).wakeAll n
  | detach ticket =>
    obtain ⟨n, r, site, w₁, hheld, -, rfl, hend⟩ := act_detach h
    have ht := (tickets_of_held? hheld).1
    have hcalm := ((Calm.after w n site (Pool.detach r (w.scene n site)).2).spend ht).wakeAll n
    rcases hend with ⟨-, heq⟩ | ⟨-, heq⟩ <;> cases heq
    · exact hcalm.trans (.of_same rfl rfl (Nat.le_refl _))
    · exact hcalm
  | interrupt i =>
    obtain ⟨interrupt, -, heq⟩ := Option.map_eq_some_iff.1 h
    cases heq
    have hcalm : Calm w (w.setFlag interrupt true) := .of_same rfl rfl (Nat.le_refl _)
    exact hcalm.wakeAll interrupt.site
  | reset i =>
    obtain ⟨interrupt, -, heq⟩ := Option.map_eq_some_iff.1 h
    cases heq
    exact .of_same rfl rfl (Nat.le_refl _)
  | change n c =>
    obtain ⟨site, -, ⟨-, rfl, -⟩ | ⟨-, rfl⟩⟩ := act_change h
    · exact (Calm.after w n site _).wakeAll n
    · exact .refl _
  | forceClose n =>
    obtain ⟨site, -, -, rfl⟩ := act_forceClose h
    exact (Calm.after w n site _).wakeAll n
  | shutDown n =>
    obtain ⟨site, -, -, ⟨rfl, -⟩ | rfl⟩ := act_shutDown h
    · exact (Calm.after w n site _).wakeAll n
    · exact .refl _
  | order n order =>
    obtain ⟨site, -, h⟩ := Option.bind_eq_some_iff.1 h
    obtain ⟨⟨reply, backend⟩, -, heq⟩ := Option.map_eq_some_iff.1 h
    cases reply <;> cases heq <;>
      exact .of_same rfl rfl (Nat.le_of_eq (List.length_set ..).symm)

theorem takeOne_calm {s : Step S (Bench.Order S)} {answer : Answer} (hs : s.isAtomic = true)
    (h : w.takeOne s = some (answer, w')) : Calm w w' := by
  cases s with
  | acquire | batch | advance => exact nomatch hs
  | create backend source =>
    have heq : (w.create backend source).2 = w' := congrArg Prod.snd (Option.some.inj h)
    exact heq ▸ create_calm w backend source
  | createFrom backend text =>
    have heq : (w.createFrom backend text).2 = w' := congrArg Prod.snd (Option.some.inj h)
    exact heq ▸ createFrom_calm w backend text
  | act action => exact act_calm h
  | call ticket c =>
    obtain ⟨⟨answer₁, w₁⟩, h, heq⟩ := Option.map_eq_some_iff.1 h
    have hcalm := withConnection_calm h
    cases answer₁ <;> cases heq <;> exact hcalm
  | withConnection ticket u => exact withConnection_calm h
  | rawConnection ticket =>
    obtain ⟨_, -, heq⟩ := Option.map_eq_some_iff.1 h
    cases heq
    exact .of_same rfl rfl (Nat.le_refl _)
  | useRaw slot u =>
    obtain ⟨_, -, h⟩ := Option.bind_eq_some_iff.1 h
    exact use_calm h
  | interruptHandle n | cloneInterrupt n =>
    obtain ⟨_, h, heq⟩ := Option.map_eq_some_iff.1 h
    obtain ⟨_, -, rfl⟩ := Option.map_eq_some_iff.1 h
    cases heq
    exact .of_same rfl rfl (Nat.le_refl _)
  | dropPool n =>
    obtain ⟨w₁, h, heq⟩ := Option.map_eq_some_iff.1 h
    cases heq
    unfold dropPool at h
    split at h
    · exact nomatch h
    · split at h
      · exact nomatch h
      · cases h
        exact .of_same rfl rfl (Nat.le_of_eq (List.length_set ..).symm)

omit [Bench S] in
theorem refuse_calm (w : World S) (n : Nat) (e : PoolError) : Calm w (w.refuse n e) := by
  refine ⟨rfl, fun t x hx => .inl ?_, Nat.le_refl _⟩
  have hlt := (List.getElem?_eq_some_iff.1 hx).1
  change ((w.tickets ++ [Ticket.waiting]).set w.tickets.length _)[t]? = _
  rw [List.getElem?_set_ne (Nat.ne_of_gt hlt), List.getElem?_append_left hlt]
  exact hx

/-- Without a turn of an acquire a critical section is calm, also if it refuses an acquire. -/
theorem Section.calm_or_turn (hs : Section w w') :
    Calm w w' ∨ (∃ n login flag, n < w.sites.length ∧ w' = w.start n login flag) ∨
      ∃ v ∈ w.waiters, w' = w.resume v := by
  cases hs with
  | step s hs h => exact .inl (takeOne_calm hs h)
  | start n d hn h =>
    rcases demand_cases h with ⟨flag, rfl⟩ | ⟨cause, rfl⟩
    · refine .inr (.inl ⟨n, d.login, flag, ?_, rfl⟩)
      obtain ⟨site, hsite⟩ := Option.isSome_iff_exists.1 hn
      exact (List.getElem?_eq_some_iff.1 (Option.filter_eq_some_iff.1 hsite).1).1
    · exact .inl (refuse_calm w n _)
  | resume hv => exact .inr (.inr ⟨_, hv, rfl⟩)
  | pass t => exact .inl (.of_same rfl rfl (Nat.le_refl _))

/-! ## What a critical section does to the queue -/

/-- The first turn of an acquire. -/
theorem start_eq {n : Nat} {site : Site S} (hn : w.sites[n]? = some site)
    (login : Option (String × String)) (flag : Option Nat) :
    w.start n login flag =
      (w.ticketed.after n site (Pool.begin (w.isRaised flag) login (w.scene n site)).2).endTurn
        w.tickets.length n flag (Pool.begin (w.isRaised flag) login (w.scene n site)).1 :=
  play_eq (w := w.ticketed) (fun raised => Pool.begin raised login) hn

/-- Where there is no pool there is only a ticket. -/
theorem start_none {n : Nat} (hn : w.sites[n]? = none) (login : Option (String × String))
    (flag : Option Nat) : w.start n login flag = w.ticketed := by
  unfold World.start
  exact play_none hn

theorem start_turns {n : Nat} {site : Site S} (hn : w.sites[n]? = some site)
    (login : Option (String × String)) (flag : Option Nat) :
    ∃ turn s, w.start n login flag =
        (w.ticketed.after n site s).endTurn w.tickets.length n flag turn ∧
      Seeks n (w.isRaised flag) ⟨w.env, site.pool, .seeking { login, started := w.env.now }⟩
        ⟨s.env, s.pool, .ended turn⟩ :=
  ⟨_, _, start_eq hn login flag, (begin_turns (w.isRaised flag) login (w.scene n site)).2⟩

/-- A later turn of an acquire. -/
theorem resume_eq {v : Waiter} {site : Site S} (hn : w.sites[v.site]? = some site) :
    w.resume v =
      ((w.without v).after v.site site
          (Pool.resume (w.isRaised v.flag) v.began v.acquire (w.scene v.site site)).2).endTurn
        v.ticket v.site v.flag
        (Pool.resume (w.isRaised v.flag) v.began v.acquire (w.scene v.site site)).1 :=
  play_eq (w := w.without v) (fun raised => Pool.resume raised v.began v.acquire) hn

theorem resume_turns {v : Waiter} {site : Site S} (hn : w.sites[v.site]? = some site) :
    ∃ turn s, w.resume v =
        ((w.without v).after v.site site s).endTurn v.ticket v.site v.flag turn ∧
      Seeks v.site (w.isRaised v.flag) ⟨w.env, site.pool, .woken v.began v.acquire⟩
        ⟨s.env, s.pool, .ended turn⟩ :=
  ⟨_, _, resume_eq hn,
    (Pool.resume_turns (w.isRaised v.flag) v.began v.acquire (w.scene v.site site)).2⟩

namespace Queued

theorem resume (h : Queued w) {v : Waiter} (hv : v ∈ w.waiters) : Queued (w.resume v) := by
  have hn := h.site v hv
  obtain ⟨turn, s, heq, -⟩ := resume_turns (List.getElem?_eq_getElem hn)
  rw [heq]
  refine ((h.without v).calm (.after ..)).endTurn ?_ (h.waiting v hv)
    (fun u hu => (mem_without.1 hu).2) v.flag turn
  exact Nat.lt_of_lt_of_eq hn (List.length_set ..).symm

theorem start (h : Queued w) {n : Nat} (hn : n < w.sites.length)
    (login : Option (String × String)) (flag : Option Nat) : Queued (w.start n login flag) := by
  obtain ⟨turn, s, heq, -⟩ := start_turns (List.getElem?_eq_getElem hn) login flag
  rw [heq]
  refine (h.ticketed.calm (.after ..)).endTurn ?_ ?_ (fun u hu => ?_) flag turn
  · exact Nat.lt_of_lt_of_eq hn (List.length_set ..).symm
  · simp [after, World.ticketed]
  · exact Nat.ne_of_lt (h.lt_tickets hu)

/-- A critical section keeps the queue. -/
theorem preserved (h : Queued w) (hs : Section w w') : Queued w' := by
  rcases hs.calm_or_turn with hc | ⟨n, login, flag, hn, rfl⟩ | ⟨v, hv, rfl⟩
  · exact h.calm hc
  · exact h.start hn login flag
  · exact h.resume hv

/-- A blocked acquire stays in the queue, or this is its turn. -/
theorem remains (h : Queued w) (hs : Section w w') {v : Waiter} (hv : v ∈ w.waiters) :
    (∃ u ∈ w'.waiters, u.asleep = v.asleep) ∨ w' = w.resume v := by
  rcases hs.calm_or_turn with hc | ⟨n, login, flag, hn, rfl⟩ | ⟨u, hu, rfl⟩
  · exact .inl (hc.remains hv)
  · obtain ⟨turn, s, heq, -⟩ := start_turns (List.getElem?_eq_getElem hn) login flag
    exact .inl ⟨v, heq ▸ subset_endTurn hv, rfl⟩
  · by_cases ht : v.ticket = u.ticket
    · rw [h.eq_of_ticket hv hu ht]
      exact .inr rfl
    · obtain ⟨turn, s, heq, -⟩ := resume_turns (List.getElem?_eq_getElem (h.site u hu))
      have hstays : v ∈ (w.without u).waiters := mem_without.2 ⟨hv, ht⟩
      exact .inl ⟨v, heq ▸ subset_endTurn hstays, rfl⟩

/-- An acquire in the queue was there before, or has just had a turn, or has just started. -/
theorem comes (h : Queued w) (hs : Section w w') {v : Waiter} (hv : v ∈ w'.waiters) :
    (∃ u ∈ w.waiters, u.asleep = v.asleep) ∨
      (∃ u ∈ w.waiters, u.ticket = v.ticket ∧ w' = w.resume u) ∨ v.ticket = w.tickets.length := by
  rcases hs.calm_or_turn with hc | ⟨n, login, flag, hn, rfl⟩ | ⟨u, hu, rfl⟩
  · exact .inl (hc.comes hv)
  · obtain ⟨turn, s, heq, -⟩ := start_turns (List.getElem?_eq_getElem hn) login flag
    rcases mem_endTurn (heq ▸ hv) with hv | ⟨ht, -⟩
    · exact .inl ⟨v, hv, rfl⟩
    · exact .inr (.inr ht)
  · obtain ⟨turn, s, heq, -⟩ := resume_turns (List.getElem?_eq_getElem (h.site u hu))
    rcases mem_endTurn (heq ▸ hv) with hv | ⟨ht, -⟩
    · exact .inl ⟨v, (mem_without.1 hv).1, rfl⟩
    · exact .inr (.inl ⟨u, hu, ht.symm, rfl⟩)

/-- No ticket is taken back. -/
theorem becomes (h : Queued w) (hs : Section w w') {t : Nat} {x : Ticket}
    (ht : w.tickets[t]? = some x) : ∃ y, w'.tickets[t]? = some y ∧ x.Becomes y := by
  have hlt := (List.getElem?_eq_some_iff.1 ht).1
  rcases hs.calm_or_turn with hc | ⟨n, login, flag, hn, rfl⟩ | ⟨u, hu, rfl⟩
  · rcases hc.tickets t x ht with hsame | ⟨n, r, rfl, hspent⟩
    · exact ⟨x, hsame, .same x⟩
    · exact ⟨_, hspent, .spent n r⟩
  · obtain ⟨turn, s, heq, -⟩ := start_turns (List.getElem?_eq_getElem hn) login flag
    rw [heq, endTurn_tickets_ne _ _ _ _ (Nat.ne_of_lt hlt)]
    change ∃ y, (w.tickets ++ [Ticket.waiting])[t]? = _ ∧ _
    rw [List.getElem?_append_left hlt]
    exact ⟨x, ht, .same x⟩
  · obtain ⟨turn, s, heq, -⟩ := resume_turns (List.getElem?_eq_getElem (h.site u hu))
    rw [heq]
    by_cases hne : t = u.ticket
    · -- The ticket of a blocked acquire is still waiting, so it may come to anything.
      subst hne
      cases Option.some.inj (ht.symm.trans (h.waiting u hu))
      cases turn with
      | done => exact ⟨_, List.getElem?_set_self hlt, .ended _⟩
      | sleep => exact ⟨_, ht, .same _⟩
    · rw [endTurn_tickets_ne _ _ _ _ hne]
      exact ⟨x, ht, .same x⟩

theorem sections (h : Queued w) (hs : Sections w w') : Queued w' := by
  induction hs with
  | refl => exact h
  | tail _ hs ih => exact ih.preserved hs

theorem becomes_sections (h : Queued w) (hs : Sections w w') {t : Nat} {x : Ticket}
    (ht : w.tickets[t]? = some x) : ∃ y, w'.tickets[t]? = some y ∧ x.Becomes y := by
  induction hs with
  | refl => exact ⟨x, ht, .same x⟩
  | tail hs st ih =>
    obtain ⟨y, hy, hxy⟩ := ih
    obtain ⟨z, hz, hyz⟩ := (h.sections hs).becomes st hy
    exact ⟨z, hz, hxy.trans hyz⟩

/-- An acquire that ended with an error is over for good. -/
theorem failed_sections (h : Queued w) (hs : Sections w w') {t : Nat} {e : PoolError}
    (ht : w.tickets[t]? = some (.failed e)) : w'.tickets[t]? = some (.failed e) := by
  obtain ⟨y, hy, hbecomes⟩ := h.becomes_sections hs ht
  rw [hy, hbecomes.eq_failed]

/-- An acquire that is over is never blocked again. -/
theorem over_sections (h : Queued w) (hs : Sections w w') {t : Nat} {x : Ticket}
    (ht : w.tickets[t]? = some x) (hx : x ≠ .waiting) : ∀ v ∈ w'.waiters, v.ticket ≠ t := by
  rintro v hv rfl
  obtain ⟨y, hy, hbecomes⟩ := h.becomes_sections hs ht
  cases Option.some.inj (hy.symm.trans ((h.sections hs).waiting v hv))
  exact hx hbecomes.eq_waiting

end Queued

theorem Reachable.queued (hw : Reachable w) : Queued w := queued_empty.sections hw

/-! ## Settling -/

/-- How many blocked acquires are marked to run. -/
def wokenCount (w : World S) : Nat := w.waiters.countP (·.woken)

/-- A turn marks no acquire. -/
theorem wokenCount_resume_le (w : World S) (v : Waiter) :
    (w.resume v).wokenCount ≤ (w.without v).wokenCount := by
  cases hn : w.sites[v.site]? with
  | none =>
    have hsame : w.resume v = w.without v := play_none hn
    exact Nat.le_of_eq (congrArg wokenCount hsame)
  | some site =>
    obtain ⟨turn, s, heq, -⟩ := resume_turns hn
    rw [heq]
    cases turn with
    | done => exact Nat.le_refl _
    | sleep acquire wait =>
      rw [wokenCount, endTurn, List.countP_append, List.countP_singleton]
      exact Nat.le_refl _

/-- The acquires that are marked run first. -/
theorem wokenCount_next_lt {v : Waiter} (h : w.next = some v) (hpos : 0 < w.wokenCount) :
    (w.resume v).wokenCount < w.wokenCount := by
  obtain ⟨u, hu, hwoken⟩ := List.countP_pos_iff.1 hpos
  have hv : v ∈ w.waiters ∧ v.woken = true := by
    unfold next at h
    split at h
    · next hfind =>
      cases h
      exact ⟨List.mem_of_find?_eq_some hfind, List.find?_some hfind⟩
    · next hfind => exact absurd hwoken (List.find?_eq_none.1 hfind u hu)
  -- The acquire itself was marked, and it is not in the queue any more.
  refine Nat.lt_of_le_of_lt (wokenCount_resume_le w v) ?_
  have hsplit := List.countP_eq_countP_filter_add w.waiters (·.woken) (·.ticket != v.ticket)
  have hself : 0 < (w.waiters.filter fun u => !(u.ticket != v.ticket)).countP (·.woken) :=
    List.countP_pos_iff.2 ⟨v, List.mem_filter.2 ⟨hv.1, by simp⟩, hv.2⟩
  change (w.waiters.filter (·.ticket != v.ticket)).countP (·.woken) < w.waiters.countP (·.woken)
  omega

theorem wokenCount_next_zero {v : Waiter} (hzero : w.wokenCount = 0) :
    (w.resume v).wokenCount = 0 := by
  refine Nat.eq_zero_of_le_zero (Nat.le_trans (wokenCount_resume_le w v) ?_)
  rw [← hzero]
  exact List.filter_sublist.countP_le

theorem settleWithin_unwoken (turns : Nat) (w : World S) (h : w.wokenCount ≤ turns) :
    (settleWithin turns w).wokenCount = 0 := by
  induction turns generalizing w with
  | zero => exact Nat.eq_zero_of_le_zero h
  | succ turns ih =>
    unfold settleWithin
    split
    · next hnone =>
      unfold next at hnone
      split at hnone
      · exact nomatch hnone
      · next hfind =>
        exact List.countP_eq_zero.2 fun u hu => List.find?_eq_none.1 hfind u hu
    · next v hv =>
      rcases Nat.eq_zero_or_pos w.wokenCount with hzero | hpos
      · exact ih _ (by rw [wokenCount_next_zero hzero]; exact Nat.zero_le _)
      · exact ih _ (Nat.le_of_lt_succ (Nat.lt_of_lt_of_le (wokenCount_next_lt hv hpos) h))

/-- After the schedule has settled, no blocked acquire is still marked to run. -/
theorem settle_unwoken (w : World S) {v : Waiter} (hv : v ∈ w.settle.waiters) :
    v.woken = false := by
  have henough : w.wokenCount ≤ w.settleBound := by
    refine Nat.le_trans List.countP_le_length ?_
    unfold settleBound
    have hpos : 0 < (w.waiters.length + 1) * (w.connectionCount + w.waiters.length + 1) :=
      Nat.mul_pos (Nat.succ_pos _) (Nat.succ_pos _)
    exact Nat.le_trans (Nat.le_succ _) (Nat.le_mul_of_pos_left _ hpos)
  have hzero := settleWithin_unwoken w.settleBound w henough
  simpa using List.countP_eq_zero.1 hzero v hv

end World

end ConnPool
