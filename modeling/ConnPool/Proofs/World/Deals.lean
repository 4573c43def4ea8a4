import ConnPool.Proofs.Pool.Custody
import ConnPool.Proofs.Pool.Upkeep
import ConnPool.Proofs.World.Ownership
import ConnPool.Proofs.World.Queue

/-!
# What a critical section has to do with one pool

`Shift` tells of a critical section what it does to the pools and leaves the backends out. Here one
pool is looked at with all of its scene. An operation runs one of the acts of the pool there, or
gives an order to its backend, or is about something else (`Deals`), and the scene that it leaves
behind is the one in which the act ends. Besides, callers can talk to a connection past the pool
(`Uses`).

* `demand_deals`, `resume_deals`, `act_deals`, `dropPool_deals`: what the operations have to do with
  a pool.
* `Deals.keeps`: what all moves of a pool keep, an operation keeps.

**Theorem (`Section.meets`).** There is nothing else that a critical section can do at a pool.
-/

namespace ConnPool

/-- The handle of pool `n` with which an acquire ended. -/
def Ticket.handle? (n : Nat) : Ticket → Option Ref
  | .held m r | .spent m r => if m = n then some r else none
  | _ => none

theorem Ticket.handle?_eq_some {n : Nat} {x : Ticket} {r : Ref} :
    x.handle? n = some r ↔ x = .held n r ∨ x = .spent n r := by
  cases x with
  | waiting | failed => simp [handle?]
  | held m s | spent m s =>
    by_cases hm : m = n <;> simp [handle?, hm]

/-- An entry of a list may be replaced by one that counts the same. -/
theorem filterMap_set_same {α β : Type} {f : α → Option β} {l : List α} {i : Nat} {x y : α}
    (hi : l[i]? = some y) (h : f x = f y) : (l.set i x).filterMap f = l.filterMap f := by
  induction l generalizing i with
  | nil => exact nomatch hi
  | cons a rest ih =>
    cases i with
    | zero =>
      cases hi
      rw [List.set_cons_zero, List.filterMap_cons, List.filterMap_cons, h]
    | succ i => rw [List.set_cons_succ, List.filterMap_cons, List.filterMap_cons, ih hi]

/-- An entry that did not count may be replaced by one that does. -/
theorem filterMap_set_new {α β : Type} {f : α → Option β} {l : List α} {i : Nat} {x y : α} {b : β}
    (hi : l[i]? = some y) (hy : f y = none) (hx : f x = some b) :
    ((l.set i x).filterMap f).Perm (b :: l.filterMap f) := by
  induction l generalizing i with
  | nil => exact nomatch hi
  | cons a rest ih =>
    cases i with
    | zero =>
      cases hi
      rw [List.set_cons_zero, List.filterMap_cons, List.filterMap_cons, hx, hy]
    | succ i =>
      rw [List.set_cons_succ, List.filterMap_cons, List.filterMap_cons]
      cases f a with
      | none => exact ih hi
      | some c => exact ((ih hi).cons c).trans (.swap b c _)

namespace World

open Pool

variable {S : Type}

/-- The handles of pool `n` with which acquires ended, one for each of these acquires. -/
def lent (w : World S) (n : Nat) : List Ref := w.tickets.filterMap (Ticket.handle? n)

theorem mem_lent {w : World S} {n : Nat} {r : Ref} : r ∈ w.lent n ↔ ∃ t, w.Given t n r := by
  simp only [lent, List.mem_filterMap, Ticket.handle?_eq_some, Given]
  constructor
  · rintro ⟨x, hx, hr⟩
    obtain ⟨t, ht⟩ := List.mem_iff_getElem?.1 hx
    rcases hr with rfl | rfl
    · exact ⟨t, .inl ht⟩
    · exact ⟨t, .inr ht⟩
  · rintro ⟨t, ht | ht⟩
    · exact ⟨_, List.mem_of_getElem? ht, .inl rfl⟩
    · exact ⟨_, List.mem_of_getElem? ht, .inr rfl⟩

theorem lent_ticketed (w : World S) (n : Nat) : w.ticketed.lent n = w.lent n := by
  rw [lent, ticketed, List.filterMap_append]
  exact List.append_nil _

/-! ## Beside one pool -/

/-- No acquire of pool `n` has a turn, so none opens a connection. None of them comes to anything,
except that one may be refused before it comes to the pool. -/
structure Aside (n : Nat) (w w' : World S) : Prop where
  env : w.env.Grows w'.env
  connects : w'.env.connectsOf n = w.env.connectsOf n
  given : ∀ t r, w'.Given t n r → w.Given t n r
  lent : w'.lent n = w.lent n
  blocked : ∀ v ∈ w'.waiters, v.site = n → ∃ u ∈ w.waiters, u.asleep = v.asleep
  ended : ∀ e ∈ w'.ended, e.site = n →
    e ∈ w.ended ∨ ∃ cause, e.outcome = .error (.configuration cause)

namespace Aside

variable {n : Nat} {w w₁ : World S}

theorem refl (n : Nat) (w : World S) : Aside n w w where
  env := .refl _
  connects := rfl
  given _ _ h := h
  lent := rfl
  blocked v h _ := ⟨v, h, rfl⟩
  ended _ h _ := .inl h

/-- What happens then has to do with neither acquires nor tickets. -/
theorem later {w₂ : World S} (h : Aside n w w₁) (he : w₁.env.Grows w₂.env)
    (hc : w₂.env.connects = w₁.env.connects) (ht : w₂.tickets = w₁.tickets)
    (hv : w₂.waiters = w₁.waiters) (hd : w₂.ended = w₁.ended) : Aside n w w₂ where
  env := h.env.trans he
  connects := (Env.connectsOf_congr hc).trans h.connects
  given t r hg := h.given t r (by rwa [Given, ← ht])
  lent := by rw [← h.lent, World.lent, ht, World.lent]
  blocked v hv' := h.blocked v (hv ▸ hv')
  ended e he' := h.ended e (hd ▸ he')

theorem of_same (he : w.env.Grows w₁.env) (hc : w₁.env.connects = w.env.connects)
    (ht : w₁.tickets = w.tickets) (hv : w₁.waiters = w.waiters) (hd : w₁.ended = w.ended) :
    Aside n w w₁ := (refl n w).later he hc ht hv hd

theorem note (h : Aside n w w₁) (k : Notice) : Aside n w (w₁.note k) :=
  h.later ((Env.Grows.refl _).note k) rfl rfl rfl rfl

theorem wakeAll (h : Aside n w w₁) (m : Nat) : Aside n w (w₁.wakeAll m) where
  env := h.env
  connects := h.connects
  given := h.given
  lent := h.lent
  blocked v hv hsite := by
    obtain ⟨u, hu, rfl⟩ := List.mem_map.1 hv
    split at hsite <;> rename_i hm
    · obtain ⟨x, hx, heq⟩ := h.blocked u hu hsite
      exact ⟨x, hx, by rw [if_pos hm, heq]; rfl⟩
    · obtain ⟨x, hx, heq⟩ := h.blocked u hu hsite
      exact ⟨x, hx, by rw [if_neg hm, heq]⟩
  ended := h.ended

theorem spend {t m : Nat} {r : Ref} (h : Aside n w w₁)
    (ht : w₁.tickets[t]? = some (.held m r)) : Aside n w (w₁.spend t m r) where
  env := h.env
  connects := h.connects
  given u s hs := by
    rcases Given.of_set rfl hs with hs | ⟨rfl, hs | hs⟩
    · exact h.given u s hs
    · exact nomatch hs
    · cases hs
      exact h.given u r (.inl ht)
  lent := by
    have hsame : (Ticket.spent m r).handle? n = (Ticket.held m r).handle? n := rfl
    exact (filterMap_set_same ht hsame).trans h.lent
  blocked := h.blocked
  ended := h.ended

/-- The turn of an acquire of another pool. -/
theorem endTurn {ticket m : Nat} {flag : Option Nat} {turn : Turn} (h : Aside n w w₁)
    (ht : w₁.tickets[ticket]? = some .waiting) (hne : m ≠ n) :
    Aside n w (w₁.endTurn ticket m flag turn) where
  env := by
    cases turn <;> exact h.env
  connects := by
    cases turn <;> exact h.connects
  given t r hg := by
    cases turn with
    | sleep => exact h.given t r hg
    | done acquire outcome =>
      rcases Given.of_set rfl hg with hg | ⟨-, hg | hg⟩
      · exact h.given t r hg
      · cases outcome with
        | error => exact nomatch hg
        | ok =>
          cases hg
          exact absurd rfl hne
      · cases outcome <;> exact nomatch hg
  lent := by
    cases turn with
    | sleep => exact h.lent
    | done acquire outcome =>
      refine (filterMap_set_same ht ?_).trans h.lent
      cases outcome with
      | error => rfl
      | ok => exact if_neg hne
  blocked v hv hsite := by
    rcases mem_endTurn hv with hv | ⟨-, hm, -⟩
    · exact h.blocked v hv hsite
    · exact absurd (hm.symm.trans hsite) hne
  ended e he hsite := by
    cases turn with
    | sleep => exact h.ended e he hsite
    | done acquire outcome =>
      rcases List.mem_cons.1 he with rfl | he
      · exact absurd hsite hne
      · exact h.ended e he hsite

end Aside

/-! ## Scenes of worlds -/

section

variable {n : Nat} {w w' : World S} {site : Site S} {s : Scene S}

/-- The scene of pool `n` satisfies `P`. -/
def SceneAt (w : World S) (n : Nat) (P : Scene S → Prop) : Prop :=
  ∃ site, w.sites[n]? = some site ∧ P (w.scene n site)

theorem SceneAt.mono {P Q : Scene S → Prop} (h : w.SceneAt n P) (hPQ : ∀ s, P s → Q s) :
    w.SceneAt n Q := h.imp fun _ hsite => ⟨hsite.1, hPQ _ hsite.2⟩

/-- The scene of a pool after an act on it. -/
theorem sceneAt_self {P : Scene S → Prop} (hn : w.sites[n]? = some site) (hs : s.site = n)
    (he : w'.env = s.env) (hsites : w'.sites = (w.after n site s).sites) (hP : P s) :
    w'.SceneAt n P := by
  refine ⟨{ site with pool := s.pool, backend := s.backend }, ?_, ?_⟩
  · rw [hsites]
    exact List.getElem?_set_self (List.getElem?_eq_some_iff.1 hn).1
  · subst hs
    have heq : w'.scene s.site { site with pool := s.pool, backend := s.backend } = s := by
      rw [scene, he]
    rw [heq]
    exact hP

end

/-! ## One pool -/

variable [Bench S]

/-- What a critical section has to do with pool `n`, whose scene was `s` before. -/
inductive Deals (n : Nat) (w w' : World S) (s : Scene S) : Scene S → Prop
  /-- Nothing. -/
  | aside {e} (h : Aside n w w') (he : s.env.Grows e) : Deals n w w' s { s with env := e }
  /-- The backend is given an order. -/
  | order {reply backend} (order : Bench.Order S) (h : Aside n w w')
      (ho : Bench.obey order s.backend = some (reply, backend)) :
      Deals n w w' s { s with backend }
  | begin (d : Demand) (flag : Option Nat) (hd : w.demand n d = some w')
      (hw : w' = w.start n d.login flag) :
      Deals n w w' s (Pool.begin (w.isRaised flag) d.login s).2
  | resume (v : Waiter) (hv : v ∈ w.waiters) (hn : v.site = n) (hw : w' = w.resume v) :
      Deals n w w' s (Pool.resume (w.isRaised v.flag) v.began v.acquire s).2
  | release (t : Nat) (r : Ref) (handle : Handle) (h : Aside n w w')
      (hh : w.held? t = some (n, r, handle)) (ha : w.act (.release t) = some (.done, w')) :
      Deals n w w' s (Pool.release r s).2
  | detach (t : Nat) (r : Ref) (handle : Handle) (answer : Answer) (h : Aside n w w')
      (hh : w.held? t = some (n, r, handle)) (ha : w.act (.detach t) = some (answer, w')) :
      Deals n w w' s (Pool.detach r s).2
  | change (c : Change) (h : Aside n w w') (ha : w.act (.change n c) = some (.done, w')) :
      Deals n w w' s (Pool.change c s).2
  | forceClose (h : Aside n w w') (ha : w.act (.forceClose n) = some (.done, w')) :
      Deals n w w' s (Pool.drain s).2
  | shutDown (h : Aside n w w') (ha : w.act (.shutDown n) = some (.done, w')) :
      Deals n w w' s (Pool.shutDown s).2

/-- A caller talks to a connection past the pool. -/
inductive Uses (s : Scene S) : Scene S → Prop
  | ask (conn : Nat) (question : Question) : Uses s (Pool.talk (Talk.ask conn question).run s).2
  | tell (conn : Nat) (command : Command) : Uses s (Pool.talk (Talk.tell conn command).run s).2

variable {n m : Nat} {w w' : World S} {site site₀ : Site S} {s : Scene S}

/-- The scene of a pool after something else. -/
theorem sceneAt_aside (hsite : w'.sites[n]? = some site₀) (hp : site₀.pool = site.pool)
    (hb : site₀.backend = site.backend) (h : Aside n w w') :
    w'.SceneAt n (Deals n w w' (w.scene n site)) := by
  refine ⟨site₀, hsite, ?_⟩
  have heq : w'.scene n site₀ = { w.scene n site with env := w'.env } := by
    rw [scene, scene, hp, hb]
  rw [heq]
  exact .aside h h.env

theorem sceneAt_same (hn : w.sites[n]? = some site) (hsites : w'.sites = w.sites)
    (h : Aside n w w') : w'.SceneAt n (Deals n w w' (w.scene n site)) :=
  sceneAt_aside (hsites ▸ hn) rfl rfl h

/-- The scene of a pool after an act on another one. -/
theorem sceneAt_other (site₀ : Site S) (s : Scene S) (hn : w.sites[n]? = some site) (hne : m ≠ n)
    (hsites : w'.sites = (w.after m site₀ s).sites) (h : Aside n w w') :
    w'.SceneAt n (Deals n w w' (w.scene n site)) := by
  refine sceneAt_aside ?_ rfl rfl h
  rw [hsites]
  exact (List.getElem?_set_ne hne).trans hn

/-! ## Turns -/

theorem start_deals {d : Demand} (flag : Option Nat) (hn : w.sites[n]? = some site)
    (hm : m < w.sites.length) (hd : w.demand m d = some w') (hw : w' = w.start m d.login flag) :
    w'.SceneAt n (Deals n w w' (w.scene n site)) := by
  obtain ⟨hs, hseeks⟩ := begin_turns (w.isRaised flag) d.login (w.scene m w.sites[m])
  have heq := start_eq (List.getElem?_eq_getElem hm) d.login flag
  by_cases hmn : m = n
  · subst hmn
    cases Option.some.inj ((List.getElem?_eq_getElem hm).symm.trans hn)
    refine sceneAt_self hn hs ?_ ?_ (.begin d flag hd hw) <;>
      · rw [hw, heq]
        cases (Pool.begin (w.isRaised flag) d.login (w.scene m w.sites[m])).1 <;> rfl
  · refine sceneAt_other w.sites[m]
      (Pool.begin (w.isRaised flag) d.login (w.scene m w.sites[m])).2 hn hmn ?_ ?_
    · rw [hw, heq]
      cases (Pool.begin (w.isRaised flag) d.login (w.scene m w.sites[m])).1 <;> rfl
    · rw [hw, heq]
      refine Aside.endTurn ⟨hseeks.grows, hseeks.connectsOf_ne hmn, fun t r h => ?_,
        lent_ticketed w n, fun v hv _ => ⟨v, hv, rfl⟩, fun e he _ => .inl he⟩ ?_ hmn
      · exact (beside_waiting w).given t n r h
      · simp [after, ticketed]

theorem resume_deals {v : Waiter} (hn : w.sites[n]? = some site) (hv : v ∈ w.waiters)
    (hm : v.site < w.sites.length) (ht : w.tickets[v.ticket]? = some .waiting) :
    (w.resume v).SceneAt n (Deals n w (w.resume v) (w.scene n site)) := by
  obtain ⟨hs, hseeks⟩ :=
    Pool.resume_turns (w.isRaised v.flag) v.began v.acquire (w.scene v.site w.sites[v.site])
  have heq := resume_eq (List.getElem?_eq_getElem hm)
  by_cases hmn : v.site = n
  · subst hmn
    cases Option.some.inj ((List.getElem?_eq_getElem hm).symm.trans hn)
    refine sceneAt_self hn hs ?_ ?_ (.resume v hv rfl rfl) <;>
      · rw [heq]
        cases (Pool.resume (w.isRaised v.flag) v.began v.acquire
          (w.scene v.site w.sites[v.site])).1 <;> rfl
  · refine sceneAt_other w.sites[v.site] (Pool.resume (w.isRaised v.flag) v.began v.acquire
      (w.scene v.site w.sites[v.site])).2 hn hmn ?_ ?_
    · rw [heq]
      cases (Pool.resume (w.isRaised v.flag) v.began v.acquire
        (w.scene v.site w.sites[v.site])).1 <;> rfl
    · rw [heq]
      refine Aside.endTurn ⟨hseeks.grows, hseeks.connectsOf_ne hmn, fun t r h => h, rfl,
        fun u hu _ => ?_, fun e he _ => .inl he⟩ ht hmn
      exact ⟨u, (mem_without.1 hu).1, rfl⟩

/-! ## Operations -/

/-- An order to the backend of a pool. -/
theorem order_deals {order : Bench.Order S} {reply : OrderReply} {backend : S}
    (hn : w.sites[n]? = some site) (hm : w.sites[m]? = some site₀)
    (h : Bench.obey order site₀.backend = some (reply, backend)) :
    SceneAt { w with sites := w.sites.set m { site₀ with backend } } n
      (Deals n w { w with sites := w.sites.set m { site₀ with backend } } (w.scene n site)) := by
  have haside : Aside n w { w with sites := w.sites.set m { site₀ with backend } } :=
    .of_same (.refl _) rfl rfl rfl rfl
  by_cases hmn : m = n
  · subst hmn
    cases Option.some.inj (hn.symm.trans hm)
    refine sceneAt_self hn (s := { w.scene m site with backend }) rfl rfl rfl ?_
    exact .order order haside h
  · exact sceneAt_aside ((List.getElem?_set_ne hmn).trans hn) rfl rfl haside

/-- An act on a pool, with what is done to tickets and blocked acquires after it. -/
theorem sceneAt_act {α : Type} (x : Act S α) (hn : w.sites[n]? = some site)
    (hm : w.sites[m]? = some site₀) (hs : (x (w.scene m site₀)).2.site = m)
    (he : w'.env = (x (w.scene m site₀)).2.env)
    (hsites : w'.sites = (w.after m site₀ (x (w.scene m site₀)).2).sites) (h : Aside n w w')
    (hd : m = n → Deals n w w' (w.scene n site) (x (w.scene n site)).2) :
    w'.SceneAt n (Deals n w w' (w.scene n site)) := by
  by_cases hmn : m = n
  · subst hmn
    cases Option.some.inj (hn.symm.trans hm)
    exact sceneAt_self hn hs he hsites (hd rfl)
  · exact sceneAt_other _ _ hn hmn hsites h

theorem act_deals {action : Action (Bench.Order S)} {answer : Answer}
    (hn : w.sites[n]? = some site) (h : w.act action = some (answer, w')) :
    w'.SceneAt n (Deals n w w' (w.scene n site)) := by
  have hafter : ∀ {m : Nat} {site₀ : Site S} {who : Handback} {s : Scene S},
      Yield m who w.env site₀.pool s.env s.pool → Aside n w (w.after m site₀ s) := fun hy =>
    .of_same hy.grows hy.connects rfl rfl rfl
  cases action with
  | release ticket =>
    obtain ⟨m, r, site₀, hheld, hm, rfl, rfl⟩ := act_release h
    obtain ⟨hs, hy⟩ := release_yields r (w.scene m site₀)
    have haside := ((hafter hy).spend (tickets_of_held? hheld).1).wakeAll m
    refine sceneAt_act (Pool.release r) hn hm hs rfl rfl haside fun hmn => ?_
    subst hmn
    exact .release ticket r _ haside hheld h
  | detach ticket =>
    obtain ⟨m, r, site₀, w₁, hheld, hm, rfl, hend⟩ := act_detach h
    obtain ⟨hs, hy⟩ := detach_yields r (w.scene m site₀)
    have hwoken := ((hafter hy).spend (tickets_of_held? hheld).1).wakeAll m
    have haside : Aside n w w' := by
      rcases hend with ⟨-, heq⟩ | ⟨-, heq⟩ <;> cases heq
      · exact hwoken.later (.refl _) rfl rfl rfl rfl
      · exact hwoken
    have hscene : w'.env = (Pool.detach r (w.scene m site₀)).2.env ∧
        w'.sites = (w.after m site₀ (Pool.detach r (w.scene m site₀)).2).sites := by
      rcases hend with ⟨-, heq⟩ | ⟨-, heq⟩ <;> cases heq <;> exact ⟨rfl, rfl⟩
    refine sceneAt_act (Pool.detach r) hn hm hs hscene.1 hscene.2 haside fun hmn => ?_
    subst hmn
    exact .detach ticket r _ _ haside hheld h
  | interrupt i =>
    obtain ⟨interrupt, -, heq⟩ := Option.map_eq_some_iff.1 h
    cases heq
    have haside : Aside n w (w.setFlag interrupt true) := .of_same (.refl _) rfl rfl rfl rfl
    exact sceneAt_same hn rfl (haside.wakeAll interrupt.site)
  | reset i =>
    obtain ⟨interrupt, -, heq⟩ := Option.map_eq_some_iff.1 h
    cases heq
    exact sceneAt_same hn rfl (.of_same (.refl _) rfl rfl rfl rfl)
  | change m c =>
    obtain ⟨site₀, hm, ⟨rfl, rfl, hs, hy⟩ | ⟨-, rfl⟩⟩ := act_change h
    · have haside := (hafter hy).wakeAll m
      refine sceneAt_act (Pool.change c) hn hm hs rfl rfl haside fun hmn => ?_
      subst hmn
      exact .change c haside h
    · exact sceneAt_same hn rfl (.refl n _)
  | forceClose m =>
    obtain ⟨site₀, hm, rfl, rfl⟩ := act_forceClose h
    obtain ⟨hs, hy⟩ := drain_yields (w.scene m site₀)
    have haside := (hafter hy).wakeAll m
    refine sceneAt_act Pool.drain hn hm hs rfl rfl haside fun hmn => ?_
    subst hmn
    exact .forceClose haside h
  | shutDown m =>
    obtain ⟨site₀, hm, rfl, ⟨rfl, hs, hy⟩ | rfl⟩ := act_shutDown h
    · have haside := (hafter hy).wakeAll m
      refine sceneAt_act Pool.shutDown hn hm hs rfl rfl haside fun hmn => ?_
      subst hmn
      exact .shutDown haside h
    · exact sceneAt_same hn rfl (.refl n _)
  | order m order =>
    obtain ⟨site₀, hsite, h⟩ := Option.bind_eq_some_iff.1 h
    obtain ⟨⟨reply, backend⟩, hobey, heq⟩ := Option.map_eq_some_iff.1 h
    have hm : w.sites[m]? = some site₀ := (Option.filter_eq_some_iff.1 hsite).1
    cases reply <;> cases heq <;> exact order_deals hn hm hobey

theorem dropPool_deals (hn : w.sites[n]? = some site) (h : w.dropPool m = some w') :
    w'.SceneAt n (Deals n w w' (w.scene n site)) := by
  unfold dropPool at h
  split at h
  · exact nomatch h
  · next site₀ hsite =>
    split at h
    · exact nomatch h
    · cases h
      have hm : w.sites[m]? = some site₀ := (Option.filter_eq_some_iff.1 hsite).1
      by_cases hmn : m = n
      · subst hmn
        cases Option.some.inj (hn.symm.trans hm)
        refine sceneAt_aside (List.getElem?_set_self ?_) rfl rfl
          (.of_same (.refl _) rfl rfl rfl rfl)
        exact (List.getElem?_eq_some_iff.1 hn).1
      · exact sceneAt_aside ((List.getElem?_set_ne hmn).trans hn) rfl rfl
          (.of_same (.refl _) rfl rfl rfl rfl)

/-! ## Demands and new pools -/

omit [Bench S] in
/-- An acquire that is refused comes to no pool. -/
theorem refuse_aside (w : World S) (n m : Nat) (cause : Misconfiguration) :
    Aside n w (w.refuse m (.configuration cause)) where
  env := .refl _
  connects := rfl
  given t r := (refuse_beside w m _).given t n r
  lent := by
    have ht : w.ticketed.tickets[w.tickets.length]? = some .waiting := by simp [ticketed]
    have hsame : (Ticket.failed (.configuration cause)).handle? n = Ticket.waiting.handle? n := rfl
    exact (filterMap_set_same ht hsame).trans (lent_ticketed w n)
  blocked v hv _ := ⟨v, hv, rfl⟩
  ended e he _ := by
    rcases List.mem_cons.1 he with rfl | he
    · exact .inr ⟨cause, rfl⟩
    · exact .inl he

theorem demand_deals {d : Demand} (hn : w.sites[n]? = some site) (hm : m < w.sites.length)
    (h : w.demand m d = some w') : w'.SceneAt n (Deals n w w' (w.scene n site)) := by
  rcases demand_cases h with ⟨flag, hw⟩ | ⟨cause, rfl⟩
  · exact start_deals flag hn hm h hw
  · exact sceneAt_same hn rfl (refuse_aside w n m cause)

theorem create_deals {w₀ : World S} (hn : w₀.sites[n]? = some site) (hsites : w.sites = w₀.sites)
    (h : Aside n w₀ w) (backend : S) (source : Properties.Source) :
    (w.create backend source).2.SceneAt n
      (Deals n w₀ (w.create backend source).2 (w₀.scene n site)) := by
  unfold create
  split
  · exact sceneAt_same hn hsites h
  · have hlt := (List.getElem?_eq_some_iff.1 hn).1
    refine sceneAt_aside ?_ rfl rfl (h.later ((Env.Grows.refl _).note _) rfl rfl rfl rfl)
    change (w.sites ++ _)[n]? = _
    rw [hsites, List.getElem?_append_left hlt]
    exact hn

theorem createFrom_deals (hn : w.sites[n]? = some site) (backend : S) (text : String) :
    (w.createFrom backend text).2.SceneAt n
      (Deals n w (w.createFrom backend text).2 (w.scene n site)) := by
  have hnotes : ∀ (keys : List String) (w₁ : World S), w₁.sites = w.sites → Aside n w w₁ →
      (keys.foldl (fun w key => w.note (.keyIgnored key)) w₁).sites = w.sites ∧
        Aside n w (keys.foldl (fun w key => w.note (.keyIgnored key)) w₁) := by
    intro keys
    induction keys with
    | nil => exact fun w₁ hsites h => ⟨hsites, h⟩
    | cons key rest ih =>
      exact fun w₁ hsites h => ih _ hsites (h.note _)
  obtain ⟨hsites, haside⟩ :=
    hnotes (Properties.read text).ignored w rfl (.of_same (.refl _) rfl rfl rfl rfl)
  unfold createFrom
  dsimp only
  split
  · exact sceneAt_same hn hsites haside
  · exact create_deals hn hsites haside backend _

/-! ## What callers do -/

/-- A caller uses a connection past the pool, or the section has to do with the pool in another
way. -/
abbrev Meets (n : Nat) (w w' : World S) (s s' : Scene S) : Prop :=
  Deals n w w' s s' ∨ Aside n w w' ∧ Uses s s'

theorem use_meets {conn : Nat} {u : Use (Bench.Order S)} {answer : Answer}
    (hn : w.sites[n]? = some site) (h : w.use m conn u = some (answer, w')) :
    w'.SceneAt n (Meets n w w' (w.scene n site)) := by
  have htalk : ∀ {α : Type} {t : Talk S α} {a : α} {w₁ : World S}, Talk.Concerns [conn] t →
      w.actOn m (Pool.talk t) = some (a, w₁) → (∀ s, Uses s (Pool.talk t s).2) →
        w₁.SceneAt n (Meets n w w₁ (w.scene n site)) := by
    intro α t a w₁ ht h huses
    obtain ⟨site₁, hm, -, rfl⟩ := actOn_eq_some h
    have hchats := Scene.Chats.talk ht (w.scene m site₁)
    have haside : Aside n w (w.after m site₁ (Pool.talk t (w.scene m site₁)).2) :=
      .of_same hchats.grows hchats.env.connects rfl rfl rfl
    by_cases hmn : m = n
    · subst hmn
      cases Option.some.inj (hn.symm.trans hm)
      exact sceneAt_self hn hchats.site rfl rfl (.inr ⟨haside, huses _⟩)
    · exact (sceneAt_other _ _ hn hmn rfl haside).mono fun _ => .inl
  cases u with
  | ask question =>
    obtain ⟨⟨outcome, w₁⟩, h, heq⟩ := Option.map_eq_some_iff.1 h
    have hmeets := htalk (Talk.concerns_ask conn question) h (fun _ => .ask conn question)
    cases outcome <;> cases heq <;> exact hmeets
  | tell command =>
    obtain ⟨⟨outcome, w₁⟩, h, heq⟩ := Option.map_eq_some_iff.1 h
    have hmeets := htalk (Talk.concerns_tell conn command) h (fun _ => .tell conn command)
    cases outcome <;> cases heq <;> exact hmeets
  | order order =>
    obtain ⟨site₁, hm, h⟩ := Option.bind_eq_some_iff.1 h
    obtain ⟨⟨reply, backend⟩, hobey, heq⟩ := Option.map_eq_some_iff.1 h
    cases heq
    exact (order_deals hn hm hobey).mono fun _ => .inl
  | look =>
    cases h
    exact (sceneAt_same hn rfl (.of_same (.refl _) rfl rfl rfl rfl)).mono fun _ => .inl

theorem withConnection_meets {ticket : Nat} {u : Use (Bench.Order S)} {answer : Answer}
    (hn : w.sites[n]? = some site) (h : w.withConnection ticket u = some (answer, w')) :
    w'.SceneAt n (Meets n w w' (w.scene n site)) := by
  obtain ⟨⟨m, r, handle⟩, -, h⟩ := Option.bind_eq_some_iff.1 h
  dsimp only at h
  split at h
  · exact use_meets hn h
  · cases h
    exact (sceneAt_same hn rfl (.of_same (.refl _) rfl rfl rfl rfl)).mono fun _ => .inl

/-! ## Critical sections -/

theorem takeOne_meets {s : Step S (Bench.Order S)} {answer : Answer} (hs : s.isAtomic = true)
    (hn : w.sites[n]? = some site) (h : w.takeOne s = some (answer, w')) :
    w'.SceneAt n (Meets n w w' (w.scene n site)) := by
  have hsame : ∀ {w₁ : World S}, w₁.sites = w.sites → w₁.env = w.env → w₁.tickets = w.tickets →
      w₁.waiters = w.waiters → w₁.ended = w.ended →
        w₁.SceneAt n (Meets n w w₁ (w.scene n site)) := fun hsites he ht hv hd =>
    (sceneAt_same hn hsites (.of_same (he ▸ .refl _) (congrArg _ he) ht hv hd)).mono fun _ => .inl
  cases s with
  | acquire | batch | advance => exact nomatch hs
  | create backend source =>
    have heq : (w.create backend source).2 = w' := congrArg Prod.snd (Option.some.inj h)
    rw [← heq]
    exact (create_deals hn rfl (.refl n w) backend source).mono fun _ => .inl
  | createFrom backend text =>
    have heq : (w.createFrom backend text).2 = w' := congrArg Prod.snd (Option.some.inj h)
    rw [← heq]
    exact (createFrom_deals hn backend text).mono fun _ => .inl
  | act action => exact (act_deals hn h).mono fun _ => .inl
  | call ticket c =>
    obtain ⟨⟨answer₁, w₁⟩, h, heq⟩ := Option.map_eq_some_iff.1 h
    have hmeets := withConnection_meets hn h
    cases answer₁ <;> cases heq <;> exact hmeets
  | withConnection ticket u => exact withConnection_meets hn h
  | rawConnection ticket =>
    obtain ⟨_, -, heq⟩ := Option.map_eq_some_iff.1 h
    cases heq
    exact hsame rfl rfl rfl rfl rfl
  | useRaw slot u =>
    obtain ⟨_, -, h⟩ := Option.bind_eq_some_iff.1 h
    exact use_meets hn h
  | interruptHandle m | cloneInterrupt m =>
    obtain ⟨_, h, heq⟩ := Option.map_eq_some_iff.1 h
    obtain ⟨_, -, rfl⟩ := Option.map_eq_some_iff.1 h
    cases heq
    exact hsame rfl rfl rfl rfl rfl
  | dropPool m =>
    obtain ⟨w₁, h, heq⟩ := Option.map_eq_some_iff.1 h
    cases heq
    exact (dropPool_deals hn h).mono fun _ => .inl

/-- What a critical section has to do with a pool is one of these. -/
theorem Section.meets (hw : Reachable w) (hs : Section w w') (hn : w.sites[n]? = some site) :
    w'.SceneAt n (Meets n w w' (w.scene n site)) := by
  cases hs with
  | step s hs h => exact takeOne_meets hs hn h
  | start m d hm h =>
    obtain ⟨site₀, hsite⟩ := Option.isSome_iff_exists.1 hm
    exact (demand_deals hn
      (List.getElem?_eq_some_iff.1 (Option.filter_eq_some_iff.1 hsite).1).1 h).mono fun _ => .inl
  | resume hv =>
    have hdeals := resume_deals hn hv (hw.queued.site _ hv) (hw.queued.waiting _ hv)
    exact hdeals.mono fun _ => .inl
  | pass t =>
    have he : w.env.Grows (w.passTo t).env :=
      ⟨Nat.le_max_left _ _, Nat.le_refl _, List.suffix_refl _⟩
    have hdeals : (w.passTo t).SceneAt n (Deals n w (w.passTo t) (w.scene n site)) :=
      sceneAt_same hn rfl (.of_same he rfl rfl rfl rfl)
    exact hdeals.mono fun _ => .inl

/-- What all moves of a pool keep, an operation keeps, if orders to the backend do. -/
theorem Deals.keeps {R : Scene S → Scene S → Prop} {s' : Scene S} (hR : Upkeep R)
    (horder : ∀ (order : Bench.Order S) (s : Scene S) reply backend,
      Bench.obey order s.backend = some (reply, backend) → R s { s with backend })
    (h : Deals n w w' s s') : R s s' := by
  cases h with
  | aside _ he => exact hR.env he
  | order order _ ho => exact horder order s _ _ ho
  | begin d flag => exact (hR.begin_serves _ _ s).keeps
  | resume v => exact (hR.resume_serves _ _ _ s).keeps
  | release t r => exact hR.release r s
  | detach t r => exact hR.detach r s
  | change c => exact hR.change c s
  | forceClose => exact hR.drain s
  | shutDown => exact hR.shutDown s

/-! ## Hand-outs -/

omit [Bench S] in
/-- A ticket that gives a handle after a turn gave it before, or is the one whose turn it was. -/
theorem endTurn_held {ticket t m : Nat} {flag : Option Nat} {turn : Turn} {r : Ref}
    (h : (w.endTurn ticket n flag turn).tickets[t]? = some (.held m r)) :
    w.tickets[t]? = some (.held m r) ∨ t = ticket ∧ m = n ∧ ∃ a, turn = .done a (.ok r) := by
  by_cases ht : t = ticket
  · subst ht
    cases turn with
    | sleep => exact .inl h
    | done a outcome =>
      have hlt : t < w.tickets.length := by
        have hlt := (List.getElem?_eq_some_iff.1 h).1
        rwa [endTurn, finish, List.length_set] at hlt
      have hresult := (List.getElem?_set_self hlt).symm.trans h
      cases outcome with
      | error => cases hresult
      | ok c =>
        cases hresult
        exact .inr ⟨rfl, rfl, a, rfl⟩
  · rw [endTurn_tickets_ne _ _ _ _ ht] at h
    exact .inl h

/-- Where no acquire has a turn, no handle comes into the hands of a caller. -/
theorem Aside.held (h : Aside n w w') (hw : Reachable w) (hs : Section w w') {t : Nat} {r : Ref}
    (ht : w'.tickets[t]? = some (.held n r)) : w.tickets[t]? = some (.held n r) := by
  rcases h.given t r (.inl ht) with hheld | hspent
  · exact hheld
  · obtain ⟨y, hy, hbecomes⟩ := hw.queued.becomes hs hspent
    cases Option.some.inj (hy.symm.trans ht)
    exact nomatch hbecomes

/-- The acquire of a ticket ended with a handle in this critical section, and its caller has it. -/
def HandsOut (n t : Nat) (r : Ref) (w w' : World S) : Prop :=
  w'.tickets[t]? = some (.held n r) ∧ w.tickets[t]? ≠ some (.held n r)

deriving instance DecidableEq for Ticket

instance (n t : Nat) (r : Ref) (w w' : World S) : Decidable (HandsOut n t r w w') :=
  inferInstanceAs (Decidable (_ ∧ _))

/-- A pool that was not there before is made by the section, with nothing in it. -/
theorem Section.created (hs : Section w w') (hn : w.pools[n]? = none) {p : Pool}
    (hn' : w'.pools[n]? = some p) :
    Beside w w' ∧ ∃ settings target, settings.problem? = none ∧ p = .empty settings target := by
  cases hs.shift with
  | aside _ hp =>
    rw [hp] at hn'
    exact nomatch hn.symm.trans hn'
  | create settings target hset hb hp =>
    rcases pools_append_cases hp hn' with rfl | hold
    · exact ⟨hb, settings, target, hset, rfl⟩
    · exact nomatch hn.symm.trans hold
  | turn _ hm hp =>
    rcases pools_cases hm hp hn' with ⟨rfl, -⟩ | hold
    · exact nomatch hn.symm.trans hm
    · exact nomatch hn.symm.trans hold
  | yield _ hm hp =>
    rcases pools_cases hm hp hn' with ⟨rfl, -⟩ | hold
    · exact nomatch hn.symm.trans hm
    · exact nomatch hn.symm.trans hold

/-- A handle comes from a pool that was there before. -/
theorem HandsOut.exists_site {t : Nat} {r : Ref} (h : HandsOut n t r w w') (hw : Reachable w)
    (hs : Section w w') : ∃ site, w.sites[n]? = some site := by
  cases hn : w.sites[n]? with
  | some site => exact ⟨site, rfl⟩
  | none =>
    have hw' : Reachable w' := hw.tail hs
    obtain ⟨p, hn', -⟩ := hw'.owners.given t n r (.inl h.1)
    have hgiven := (hs.created (pools_eq_none_iff.2 hn) hn').1.given t n r (.inl h.1)
    obtain ⟨q, hq, -⟩ := hw.owners.given t n r hgiven
    exact nomatch (pools_eq_none_iff.2 hn).symm.trans hq

/-- A handle that comes into the hands of a caller was found fit at the end of a turn. Up to then
the pool kept what all of its moves keep. -/
theorem Section.handsOut {R : Scene S → Scene S → Prop} (hR : Upkeep R) (hw : Reachable w)
    (hs : Section w w') (hn : w.sites[n]? = some site) {t : Nat} {r : Ref}
    (h : HandsOut n t r w w') :
    w'.SceneAt n fun s' => ∃ a s, R (w.scene n site) s ∧ (isFit r s).1 = true ∧
      s' = (handOut a r (isFit r s).2).2 := by
  obtain ⟨hheld, hnew⟩ := h
  have hno : ¬Aside n w w' := fun haside => hnew (haside.held hw hs hheld)
  obtain ⟨site', hn', hd | ⟨haside, -⟩⟩ := hs.meets hw hn
  · refine ⟨site', hn', ?_⟩
    generalize w'.scene n site' = s' at hd
    cases hd with
    | aside haside | order _ haside | release _ _ _ haside | detach _ _ _ _ haside
    | change _ haside | forceClose haside | shutDown haside => exact absurd haside hno
    | begin d flag hd hw' =>
      rw [hw', start_eq hn d.login flag] at hheld
      rcases endTurn_held hheld with hold | ⟨-, -, a, hturn⟩
      · change (w.tickets ++ [Ticket.waiting])[t]? = _ at hold
        rcases Nat.lt_or_ge t w.tickets.length with hlt | hge
        · rw [List.getElem?_append_left hlt] at hold
          exact absurd hold hnew
        · rw [List.getElem?_append_right hge] at hold
          exact nomatch List.mem_singleton.1 (List.mem_of_getElem? hold)
      · obtain ⟨s, hkeeps, hfit⟩ := (hR.begin_serves _ d.login (w.scene n site)).fit a r hturn
        exact ⟨a, s, hkeeps, hfit⟩
    | resume v hv hsite hw' =>
      subst hsite
      rw [hw', resume_eq hn] at hheld
      rcases endTurn_held hheld with hold | ⟨-, -, a, hturn⟩
      · exact absurd hold hnew
      · obtain ⟨s, hkeeps, hfit⟩ :=
          (hR.resume_serves _ v.began v.acquire (w.scene v.site site)).fit a r hturn
        exact ⟨a, s, hkeeps, hfit⟩
  · exact absurd haside hno

end World

end ConnPool
