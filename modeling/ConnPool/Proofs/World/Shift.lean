import ConnPool.Proofs.Pool.Owned
import ConnPool.Proofs.World.Reach

/-!
# What a critical section does

A critical section takes at most one pool from one state to another: by a turn of an acquire, or by
an operation that gives something back. `Shift` tells these apart, and says what becomes of the
tickets and of the blocked acquires.

**Theorem (`Section.shift`).** There is nothing else a critical section can do. What turns and
operations preserve of a pool is therefore true in every reachable world.
-/

namespace ConnPool

/-- The login that a demand asks for. -/
def Demand.login : Demand → Option (String × String)
  | .loggedIn username password => some (username, password)
  | .ordinary | .interruptible _ => none

namespace World

open Pool

variable {S : Type}

/-- The pools of a world. -/
def pools (w : World S) : List Pool := w.sites.map (·.pool)

/-- The acquire of a ticket ended with the handle, and the caller may have given it up since. -/
def Given (w : World S) (ticket n : Nat) (r : Ref) : Prop :=
  w.tickets[ticket]? = some (.held n r) ∨ w.tickets[ticket]? = some (.spent n r)

/-- A ticket that is changed gives no other handle than the one that it then names. -/
theorem Given.of_set {w w' : World S} {ticket t n : Nat} {x : Ticket} {r : Ref}
    (ht : w'.tickets = w.tickets.set ticket x) (h : w'.Given t n r) :
    w.Given t n r ∨ t = ticket ∧ (x = .held n r ∨ x = .spent n r) := by
  by_cases heq : t = ticket
  · subst heq
    refine .inr ⟨rfl, ?_⟩
    rw [Given, ht] at h
    rcases Nat.lt_or_ge t w.tickets.length with hlt | hge
    · simpa [List.getElem?_set_self hlt] using h
    · rw [List.getElem?_eq_none (by rwa [List.length_set])] at h
      exact h.elim nofun nofun
  · rw [Given, ht, List.getElem?_set_ne (Ne.symm heq)] at h
    exact .inl h

/-- What is the same for all critical sections that open no connection and end no acquire with a
handle: time goes on, no handle is given to a caller, and no acquire falls asleep. -/
structure Beside (w w' : World S) : Prop where
  env : w.env.Grows w'.env
  connects : w'.env.connects = w.env.connects
  given : ∀ t n r, w'.Given t n r → w.Given t n r
  waiting : ∀ v ∈ w'.waiters, v.woken = false → v ∈ w.waiters

/-- A caller detaches a handle of pool `n`, and is left with the connection. -/
def HandsOver [Bench S] (n conn : Nat) (w w' : World S) : Prop :=
  ∃ ticket r h slot, w.held? ticket = some (n, r, h) ∧ h.raw.conn = conn ∧
    w.act (.detach ticket) = some (.loose slot h.raw.id, w')

/-- What a critical section does. -/
inductive Shift [Bench S] (w w' : World S) : Prop
  /-- No pool changes. -/
  | aside (hb : Beside w w') (hp : w'.pools = w.pools)
  /-- A pool is made. -/
  | create (settings : Settings) (target : Target) (hs : settings.problem? = none)
      (hb : Beside w w') (hp : w'.pools = w.pools ++ [.empty settings target])
  /-- An acquire has a turn. -/
  | turn {n : Nat} {raised : Bool} {p p' : Pool} {phase : Phase} {turn : Turn} (ticket : Nat)
      (hn : w.pools[n]? = some p) (hp : w'.pools = w.pools.set n p') (hphase : phase.Starts)
      (hs : Seeks n raised ⟨w.env, p, phase⟩ ⟨w'.env, p', .ended turn⟩)
      (hg : ∀ t m r, w'.Given t m r →
        w.Given t m r ∨ t = ticket ∧ m = n ∧ ∃ a, turn = .done a (.ok r))
      (hv : ∀ v ∈ w'.waiters, v.woken = false → v ∈ w.waiters ∨
        v.site = n ∧ ∃ a d, turn = .sleep a d ∧ v.deadline = Instant.deadline w'.env.now d)
  /-- Something is given back, and the acquires that wait for the pool are woken. -/
  | yield {n : Nat} {who : Handback} {p p' : Pool} (hb : Beside w w')
      (hn : w.pools[n]? = some p) (hp : w'.pools = w.pools.set n p')
      (hw : ∀ r ∈ who.ref?, ∃ t, w.Given t n r) (hy : Yield n who w.env p w'.env p')
      (hv : ∀ v ∈ w'.waiters, v.woken = false → v.site ≠ n)
      (hd : ∀ r, who = .detach r → r ∈ p.active → (p.handle r).valid = true →
        HandsOver n (p.connOf r) w w')

theorem Shift.grows [Bench S] {w w' : World S} (h : Shift w w') : w.env.Grows w'.env := by
  cases h with
  | aside hb | create _ _ _ hb | yield hb => exact hb.env
  | turn _ _ _ _ hs => exact hs.grows

/-- The other pools are the same when one has changed. -/
theorem pools_cases {w w' : World S} {m n : Nat} {p p' q : Pool} (hn : w.pools[n]? = some p)
    (hp : w'.pools = w.pools.set n p') (hm : w'.pools[m]? = some q) :
    m = n ∧ q = p' ∨ w.pools[m]? = some q := by
  rw [hp] at hm
  by_cases heq : n = m
  · subst heq
    rw [List.getElem?_set_self (List.getElem?_eq_some_iff.1 hn).1] at hm
    exact .inl ⟨rfl, (Option.some.inj hm).symm⟩
  · rw [List.getElem?_set_ne heq] at hm
    exact .inr hm

theorem pools_set_self {w w' : World S} {n : Nat} {p p' : Pool} (hn : w.pools[n]? = some p)
    (hp : w'.pools = w.pools.set n p') : w'.pools[n]? = some p' := by
  rw [hp, List.getElem?_set_self (List.getElem?_eq_some_iff.1 hn).1]

theorem pools_set_ne {w w' : World S} {m n : Nat} {p' : Pool}
    (hp : w'.pools = w.pools.set n p') (hne : m ≠ n) : w'.pools[m]? = w.pools[m]? := by
  rw [hp, List.getElem?_set_ne (Ne.symm hne)]

theorem pools_set_of_ne {w w' : World S} {m n : Nat} {p' q : Pool}
    (hp : w'.pools = w.pools.set n p') (hne : m ≠ n) (hm : w.pools[m]? = some q) :
    w'.pools[m]? = some q :=
  (pools_set_ne hp hne).trans hm

theorem pools_append_of_some {w w' : World S} {m : Nat} {p q : Pool}
    (hp : w'.pools = w.pools ++ [p]) (hm : w.pools[m]? = some q) : w'.pools[m]? = some q := by
  rw [hp, List.getElem?_append_left (List.getElem?_eq_some_iff.1 hm).1]
  exact hm

/-- The other pools are the same when one is made. -/
theorem pools_append_cases {w w' : World S} {m : Nat} {p q : Pool}
    (hp : w'.pools = w.pools ++ [p]) (hm : w'.pools[m]? = some q) :
    q = p ∨ w.pools[m]? = some q := by
  rw [hp, List.getElem?_append] at hm
  split at hm
  · exact .inr hm
  · exact .inl (List.mem_singleton.1 (List.mem_of_getElem? hm))

namespace Beside

variable {w w₁ w₂ : World S}

theorem refl (w : World S) : Beside w w := ⟨.refl _, rfl, fun _ _ _ h => h, fun _ h _ => h⟩

theorem trans (h₁ : Beside w w₁) (h₂ : Beside w₁ w₂) : Beside w w₂ :=
  ⟨h₁.env.trans h₂.env, h₂.connects.trans h₁.connects,
    fun t n r h => h₁.given t n r (h₂.given t n r h),
    fun v hv hw => h₁.waiting v (h₂.waiting v hv hw) hw⟩

/-- Worlds that differ in no more than the clock, the journal and what is not told of here. -/
theorem of_same {w w' : World S} (he : w.env.Grows w'.env)
    (hc : w'.env.connects = w.env.connects) (ht : w'.tickets = w.tickets)
    (hv : w'.waiters = w.waiters) : Beside w w' :=
  ⟨he, hc, fun t n r h => by rwa [Given, ← ht], fun v h _ => hv ▸ h⟩

theorem wakeAll (h : Beside w w₁) (n : Nat) : Beside w (w₁.wakeAll n) := by
  refine h.trans ⟨.refl _, rfl, fun _ _ _ h => h, fun v hv hw => ?_⟩
  obtain ⟨u, hu, rfl⟩ := List.mem_map.1 hv
  split at hw
  · exact nomatch hw
  · next hsite =>
    rw [if_neg hsite]
    exact hu

theorem spend (h : Beside w w₁) {ticket n : Nat} {r : Ref} (hg : w₁.Given ticket n r) :
    Beside w (w₁.spend ticket n r) := by
  refine h.trans ⟨.refl _, rfl, fun t m s hs => ?_, fun _ hv _ => hv⟩
  rcases Given.of_set rfl hs with hs | ⟨rfl, hs | hs⟩
  · exact hs
  · exact nomatch hs
  · cases hs
    exact hg

end Beside

/-- The acquires that wait for a pool are awake after they were woken. -/
theorem site_ne_of_wakeAll {w : World S} {n : Nat} {v : Waiter} (hv : v ∈ (w.wakeAll n).waiters)
    (hw : v.woken = false) : v.site ≠ n := by
  obtain ⟨u, hu, rfl⟩ := List.mem_map.1 hv
  split at hw
  · exact nomatch hw
  · next hsite =>
    rw [if_neg hsite]
    exact hsite

/-! ## Acts on a pool -/

/-- The scene of a pool in a world. -/
def scene (w : World S) (n : Nat) (site : Site S) : Scene S :=
  ⟨⟨w.env, n, site.backend⟩, site.pool⟩

/-- The world with a scene in place of that of a pool. -/
def after (w : World S) (n : Nat) (site : Site S) (s : Scene S) : World S :=
  { w with
    env := s.env
    sites := w.sites.set n { site with pool := s.pool, backend := s.backend } }

/-- An act that leaves the scene of a pool alone leaves the world alone. -/
theorem after_scene {w : World S} {n : Nat} {site : Site S} (hn : w.sites[n]? = some site) :
    w.after n site (w.scene n site) = w := by
  obtain ⟨hlt, rfl⟩ := List.getElem?_eq_some_iff.1 hn
  have hsame : w.sites.set n w.sites[n] = w.sites := List.set_getElem_self hlt
  simp [after, scene, hsame]

theorem actOn_eq_some {α : Type} {w w' : World S} {n : Nat} {act : Act S α} {a : α}
    (h : w.actOn n act = some (a, w')) :
    ∃ site, w.sites[n]? = some site ∧ a = (act (w.scene n site)).1 ∧
      w' = w.after n site (act (w.scene n site)).2 := by
  obtain ⟨site, hsite, heq⟩ := Option.map_eq_some_iff.1 h
  cases heq
  exact ⟨site, hsite, rfl, rfl⟩

theorem actOn_of_site {α : Type} {w : World S} {n : Nat} {site : Site S}
    (hn : w.sites[n]? = some site) (act : Act S α) :
    w.actOn n act = some ((act (w.scene n site)).1, w.after n site (act (w.scene n site)).2) := by
  rw [actOn, hn]
  rfl

theorem pools_getElem? {w : World S} {n : Nat} {site : Site S} (h : w.sites[n]? = some site) :
    w.pools[n]? = some site.pool := by
  rw [pools, List.getElem?_map, h]
  rfl

theorem exists_site_of_pools {w : World S} {n : Nat} {p : Pool} (h : w.pools[n]? = some p) :
    ∃ site, w.sites[n]? = some site ∧ site.pool = p := by
  rw [pools, List.getElem?_map] at h
  exact Option.map_eq_some_iff.1 h

theorem pools_eq_none_iff {w : World S} {n : Nat} : w.pools[n]? = none ↔ w.sites[n]? = none := by
  rw [pools, List.getElem?_map, Option.map_eq_none_iff]

theorem pools_after (w : World S) (n : Nat) (site : Site S) (s : Scene S) :
    (w.after n site s).pools = w.pools.set n s.pool := List.map_set

theorem pools_set_same {w : World S} {n : Nat} {site site' : Site S}
    (h : w.sites[n]? = some site) (hp : site'.pool = site.pool) :
    (w.sites.set n site').map (·.pool) = w.pools := by
  obtain ⟨hlt, heq⟩ := List.getElem?_eq_some_iff.1 (pools_getElem? h)
  rw [List.map_set, hp, ← heq]
  exact List.set_getElem_self hlt

/-- An act that leaves the pool alone. -/
theorem shift_of_chats {w : World S} {n : Nat} {site : Site S} {s : Scene S} {conns : List Nat}
    (hn : w.sites[n]? = some site) (h : (w.scene n site).Chats conns s) :
    Beside w (w.after n site s) ∧ (w.after n site s).pools = w.pools :=
  ⟨.of_same h.env.grows h.env.connects rfl rfl, pools_set_same hn h.pool⟩

/-- An operation that gives something back, and what is done to wake those who wait. -/
theorem shift_of_yield [Bench S] {w w' : World S} {n : Nat} {site : Site S} {who : Handback}
    {s : Scene S} (hn : w.sites[n]? = some site) (hy : Yield n who w.env site.pool s.env s.pool)
    (hw : ∀ r ∈ who.ref?, ∃ t, w.Given t n r) (hb : Beside (w.after n site s) w')
    (he : w'.env = s.env) (hsites : w'.sites = (w.after n site s).sites)
    (hv : ∀ v ∈ w'.waiters, v.woken = false → v.site ≠ n)
    (hd : ∀ r, who = .detach r → r ∈ site.pool.active → (site.pool.handle r).valid = true →
      HandsOver n (site.pool.connOf r) w w') : Shift w w' := by
  have hfirst : Beside w (w.after n site s) := .of_same hy.grows hy.connects rfl rfl
  have hp : w'.pools = w.pools.set n s.pool := by
    rw [pools, hsites]
    exact pools_after w n site s
  exact .yield (hfirst.trans hb) (pools_getElem? hn) hp hw (he ▸ hy) hv hd

theorem tickets_of_held? {w : World S} {ticket n : Nat} {r : Ref} {h : Handle}
    (hh : w.held? ticket = some (n, r, h)) :
    w.tickets[ticket]? = some (.held n r) ∧
      ∃ site, w.sites[n]? = some site ∧ h = site.pool.handle r := by
  unfold held? at hh
  split at hh
  · next m s ht =>
    obtain ⟨site, hn, heq⟩ := Option.map_eq_some_iff.1 hh
    cases heq
    exact ⟨ht, site, hn, rfl⟩
  · exact nomatch hh

theorem held?_eq_some {w : World S} {ticket n : Nat} {r : Ref} {h : Handle}
    (hh : w.held? ticket = some (n, r, h)) :
    w.Given ticket n r ∧ ∃ site, w.sites[n]? = some site ∧ h = site.pool.handle r :=
  (tickets_of_held? hh).imp .inl id

/-! ## Turns -/

/-- A ticket of an acquire that is not over gives no handle. -/
theorem beside_waiting (w : World S) :
    Beside w { w with tickets := w.tickets ++ [Ticket.waiting] } := by
  refine ⟨.refl _, rfl, fun t n r h => ?_, fun _ hv _ => hv⟩
  rcases Nat.lt_or_ge t w.tickets.length with hlt | hge
  · simpa [Given, List.getElem?_append_left hlt] using h
  · simp only [Given, List.getElem?_append_right hge] at h
    rcases h with h | h <;> cases List.mem_singleton.1 (List.mem_of_getElem? h)

variable {w w' : World S}

/-- The turn of an acquire, in a world that differs from an earlier one beside the pools only. -/
theorem play_shift [Bench S] {w₀ : World S} (ticket n : Nat) (flag : Option Nat)
    {turn : Bool → Act S Turn} (hb : Beside w₀ w) (he : w.env = w₀.env)
    (hsites : w.sites = w₀.sites)
    (hturn : ∀ raised s, ∃ phase : Phase, phase.Starts ∧
      Ends (turn raised) s (Turns s.site raised (s.stage phase))) :
    Shift w₀ (w.play ticket n flag turn) := by
  have hpools : w.pools = w₀.pools := by rw [pools, hsites]; rfl
  unfold play
  split
  · exact .aside hb hpools
  · next a outcome w₁ hact =>
    obtain ⟨site, hn, hout, rfl⟩ := actOn_eq_some hact
    obtain ⟨phase, hphase, -, hs⟩ := hturn (w.isRaised flag) (w.scene n site)
    change Seeks n _ ⟨w.env, site.pool, phase⟩ _ at hs
    rw [← hout, he] at hs
    refine .turn ticket (hpools ▸ pools_getElem? hn) ?_ hphase hs (fun t m r h => ?_)
      fun v hv hw => .inl (hb.waiting v hv hw)
    · rw [← hpools]
      exact pools_after w n site _
    · refine (Given.of_set rfl h).imp (hb.given t m r) fun ⟨ht, hresult⟩ => ⟨ht, ?_⟩
      cases outcome with
      | error e => exact hresult.elim nofun nofun
      | ok c =>
        rcases hresult with hresult | hresult
        · cases hresult
          exact ⟨rfl, a, rfl⟩
        · exact nomatch hresult
  · next a d w₁ hact =>
    obtain ⟨site, hn, hout, rfl⟩ := actOn_eq_some hact
    obtain ⟨phase, hphase, -, hs⟩ := hturn (w.isRaised flag) (w.scene n site)
    change Seeks n _ ⟨w.env, site.pool, phase⟩ _ at hs
    rw [← hout, he] at hs
    refine .turn ticket (hpools ▸ pools_getElem? hn) ?_ hphase hs
      (fun t m r h => .inl (hb.given t m r h)) fun v hv hw => ?_
    · rw [← hpools]
      exact pools_after w n site _
    · rcases List.mem_append.1 hv with hv | hv
      · exact .inl (hb.waiting v hv hw)
      · rw [List.mem_singleton.1 hv]
        exact .inr ⟨rfl, a, d, rfl, rfl⟩

theorem refuse_beside (w : World S) (n : Nat) (e : PoolError) : Beside w (w.refuse n e) := by
  refine (beside_waiting w).trans ⟨.refl _, rfl, fun t m r h => ?_, fun _ hv _ => hv⟩
  rcases Given.of_set rfl h with h | ⟨-, h | h⟩
  · exact h
  · exact nomatch h
  · exact nomatch h

/-! ## New pools -/

theorem create_shift [Bench S] {w₀ : World S} (hb : Beside w₀ w) (hp : w.pools = w₀.pools)
    (backend : S) (source : Properties.Source) : Shift w₀ (w.create backend source).2 := by
  unfold create
  split
  · exact .aside hb hp
  · next hs =>
    refine .create source.settings source.target hs ?_ ?_
    · exact hb.trans (.of_same ((Env.Grows.refl _).note _) rfl rfl rfl)
    · rw [← hp]
      exact List.map_append

/-- The notices of ignored keys are written before a pool is made. -/
theorem notes_beside (w : World S) (keys : List String) :
    Beside w (keys.foldl (fun w key => w.note (.keyIgnored key)) w) ∧
      (keys.foldl (fun w key => w.note (.keyIgnored key)) w).pools = w.pools := by
  induction keys generalizing w with
  | nil => exact ⟨.refl _, rfl⟩
  | cons key rest ih =>
    obtain ⟨hb, hp⟩ := ih (w.note (.keyIgnored key))
    have hfirst : Beside w (w.note (.keyIgnored key)) :=
      .of_same ((Env.Grows.refl _).note _) rfl rfl rfl
    exact ⟨hfirst.trans hb, hp⟩

theorem createFrom_shift [Bench S] (w : World S) (backend : S) (text : String) :
    Shift w (w.createFrom backend text).2 := by
  unfold createFrom
  obtain ⟨hb, hp⟩ := notes_beside w (Properties.read text).ignored
  dsimp only
  split
  · exact .aside hb hp
  · exact create_shift hb hp backend _

/-! ## Acquires -/

variable [Bench S]

theorem start_shift (w : World S) (n : Nat) (login : Option (String × String))
    (flag : Option Nat) : Shift w (w.start n login flag) :=
  play_shift _ n flag (beside_waiting w) rfl rfl fun raised s =>
    ⟨.seeking _, trivial, begin_turns raised login s⟩

theorem resume_shift (w : World S) (v : Waiter) : Shift w (w.resume v) :=
  play_shift _ v.site v.flag
    ⟨.refl _, rfl, fun _ _ _ h => h, fun _ hu _ => (List.mem_filter.1 hu).1⟩ rfl rfl
    fun raised s => ⟨.woken _ _, trivial, resume_turns raised v.began v.acquire s⟩

/-- An acquire is started with the login of its demand, unless it is refused. -/
theorem demand_cases {n : Nat} {d : Demand} (h : w.demand n d = some w') :
    (∃ flag, w' = w.start n d.login flag) ∨ ∃ cause, w' = w.refuse n (.configuration cause) := by
  cases d with
  | ordinary => exact .inl ⟨none, (Option.some.inj h).symm⟩
  | loggedIn username password => exact .inl ⟨none, (Option.some.inj h).symm⟩
  | interruptible i =>
    obtain ⟨interrupt, -, rfl⟩ := Option.map_eq_some_iff.1 h
    split
    · exact .inl ⟨some interrupt.flag, rfl⟩
    · exact .inr ⟨_, rfl⟩

theorem demand_shift {n : Nat} {d : Demand} (h : w.demand n d = some w') : Shift w w' := by
  rcases demand_cases h with ⟨flag, rfl⟩ | ⟨cause, rfl⟩
  · exact start_shift w n d.login flag
  · exact .aside (refuse_beside w n _) rfl

/-! ## What callers do -/

/-- To use a connection past the pool changes no pool. -/
theorem use_shift {n conn : Nat} {u : Use (Bench.Order S)} {answer : Answer}
    (h : w.use n conn u = some (answer, w')) : Shift w w' := by
  have hact : ∀ {α : Type} {t : Talk S α} {a : α} {w₁ : World S}, Talk.Concerns [conn] t →
      w.actOn n (Pool.talk t) = some (a, w₁) → Shift w w₁ := by
    intro α t a w₁ ht h
    obtain ⟨site, hn, -, rfl⟩ := actOn_eq_some h
    obtain ⟨hb, hp⟩ := shift_of_chats hn (.talk ht _)
    exact .aside hb hp
  cases u with
  | ask question =>
    obtain ⟨⟨outcome, w₁⟩, h, heq⟩ := Option.map_eq_some_iff.1 h
    have hshift := hact (Talk.concerns_ask conn question) h
    cases outcome <;> cases heq <;> exact hshift
  | tell command =>
    obtain ⟨⟨outcome, w₁⟩, h, heq⟩ := Option.map_eq_some_iff.1 h
    have hshift := hact (Talk.concerns_tell conn command) h
    cases outcome <;> cases heq <;> exact hshift
  | order order =>
    obtain ⟨site, hn, h⟩ := Option.bind_eq_some_iff.1 h
    obtain ⟨⟨reply, backend⟩, -, heq⟩ := Option.map_eq_some_iff.1 h
    cases heq
    exact .aside (.of_same (.refl _) rfl rfl rfl) (pools_set_same hn rfl)
  | look =>
    cases h
    exact .aside (.refl _) rfl

theorem withConnection_shift {ticket : Nat} {u : Use (Bench.Order S)} {answer : Answer}
    (h : w.withConnection ticket u = some (answer, w')) : Shift w w' := by
  obtain ⟨⟨n, r, handle⟩, -, h⟩ := Option.bind_eq_some_iff.1 h
  dsimp only at h
  split at h
  · exact use_shift h
  · cases h
    exact .aside (.refl _) rfl

theorem call_shift {ticket : Nat} {c : HandleCall} {answer : Answer}
    (h : w.call ticket c = some (answer, w')) : Shift w w' := by
  obtain ⟨⟨answer₁, w₁⟩, h, heq⟩ := Option.map_eq_some_iff.1 h
  have hshift := withConnection_shift h
  cases answer₁ <;> cases heq <;> exact hshift

/-! ## Acts of callers

What a step that runs an act of a pool does to the world, with its answer. -/

section

variable {ticket n : Nat} {answer : Answer}

theorem act_release (h : w.act (.release ticket) = some (answer, w')) :
    ∃ n r site, w.held? ticket = some (n, r, site.pool.handle r) ∧ w.sites[n]? = some site ∧
      answer = .done ∧
      w' = ((w.after n site (Pool.release r (w.scene n site)).2).spend ticket n r).wakeAll n := by
  obtain ⟨⟨n, r, handle⟩, hheld, h⟩ := Option.bind_eq_some_iff.1 h
  obtain ⟨⟨_, w₁⟩, hact, heq⟩ := Option.map_eq_some_iff.1 h
  obtain ⟨site, hn, -, rfl⟩ := actOn_eq_some hact
  obtain ⟨-, site', hn', rfl⟩ := tickets_of_held? hheld
  cases Option.some.inj (hn.symm.trans hn')
  cases heq
  exact ⟨n, r, site, hheld, hn, rfl, rfl⟩

theorem act_detach (h : w.act (.detach ticket) = some (answer, w')) :
    ∃ n r site w₁, w.held? ticket = some (n, r, site.pool.handle r) ∧ w.sites[n]? = some site ∧
      w₁ = ((w.after n site (Pool.detach r (w.scene n site)).2).spend ticket n r).wakeAll n ∧
      ((Pool.detach r (w.scene n site)).1 = true ∧
          (answer, w') = w₁.hold n (site.pool.handle r).raw ∨
        (Pool.detach r (w.scene n site)).1 = false ∧
          (answer, w') = (.refused .invalidated, w₁)) := by
  obtain ⟨⟨n, r, handle⟩, hheld, h⟩ := Option.bind_eq_some_iff.1 h
  obtain ⟨⟨owned, w₁⟩, hact, heq⟩ := Option.map_eq_some_iff.1 h
  obtain ⟨site, hn, howned, rfl⟩ := actOn_eq_some hact
  obtain ⟨-, site', hn', rfl⟩ := tickets_of_held? hheld
  cases Option.some.inj (hn.symm.trans hn')
  refine ⟨n, r, site, _, hheld, hn, rfl, ?_⟩
  cases owned with
  | true => exact .inl ⟨howned.symm, heq.symm⟩
  | false => exact .inr ⟨howned.symm, heq.symm⟩

/-- A change that is refused changes nothing. -/
theorem act_change {c : Change} (h : w.act (.change n c) = some (answer, w')) :
    ∃ site, w.sites[n]? = some site ∧
      (answer = .done ∧ w' = (w.after n site (Pool.change c (w.scene n site)).2).wakeAll n ∧
          (Pool.change c (w.scene n site)).2.site = n ∧
          Yield n .all w.env site.pool (Pool.change c (w.scene n site)).2.env
            (Pool.change c (w.scene n site)).2.pool ∨
        (∃ e, answer = .refused e) ∧ w' = w) := by
  obtain ⟨_, -, h⟩ := Option.bind_eq_some_iff.1 h
  obtain ⟨⟨outcome, w₁⟩, hact, heq⟩ := Option.map_eq_some_iff.1 h
  obtain ⟨site, hn, hout, rfl⟩ := actOn_eq_some hact
  refine ⟨site, hn, ?_⟩
  rcases change_yields c (w.scene n site) with ⟨hok, hsite, hy⟩ | ⟨⟨e, herror⟩, hs⟩
  · rw [hout, hok] at heq
    cases heq
    exact .inl ⟨rfl, rfl, hsite, hy⟩
  · rw [hout, herror, hs, after_scene hn] at heq
    cases heq
    exact .inr ⟨⟨e, rfl⟩, rfl⟩

theorem act_forceClose (h : w.act (.forceClose n) = some (answer, w')) :
    ∃ site, w.sites[n]? = some site ∧ answer = .done ∧
      w' = (w.after n site (Pool.drain (w.scene n site)).2).wakeAll n := by
  obtain ⟨_, -, h⟩ := Option.bind_eq_some_iff.1 h
  obtain ⟨⟨_, w₁⟩, hact, heq⟩ := Option.map_eq_some_iff.1 h
  obtain ⟨site, hn, -, rfl⟩ := actOn_eq_some hact
  cases heq
  exact ⟨site, hn, rfl, rfl⟩

/-- The shutdown of a pool that is shut down changes nothing. -/
theorem act_shutDown (h : w.act (.shutDown n) = some (answer, w')) :
    ∃ site, w.sites[n]? = some site ∧ answer = .done ∧
      (w' = (w.after n site (Pool.shutDown (w.scene n site)).2).wakeAll n ∧
          (Pool.shutDown (w.scene n site)).2.site = n ∧
          Yield n .all w.env site.pool (Pool.shutDown (w.scene n site)).2.env
            (Pool.shutDown (w.scene n site)).2.pool ∨
        w' = w) := by
  obtain ⟨_, -, h⟩ := Option.bind_eq_some_iff.1 h
  obtain ⟨⟨wasOpen, w₁⟩, hact, heq⟩ := Option.map_eq_some_iff.1 h
  obtain ⟨site, hn, hout, rfl⟩ := actOn_eq_some hact
  rcases shutDown_yields (w.scene n site) with ⟨hopen, hsite, hy⟩ | ⟨hclosed, hs⟩
  · rw [hout, hopen] at heq
    cases heq
    exact ⟨site, hn, rfl, .inl ⟨rfl, hsite, hy⟩⟩
  · rw [hout, hclosed, hs, after_scene hn] at heq
    cases heq
    exact ⟨site, hn, rfl, .inr rfl⟩

end

theorem act_shift {action : Action (Bench.Order S)} {answer : Answer}
    (h : w.act action = some (answer, w')) : Shift w w' := by
  -- The handle of a ticket is given back, and those who wait for the pool are woken.
  have hback : ∀ {ticket n : Nat} {site : Site S} {who : Handback} {r : Ref} {s : Scene S}
      {loose : List (Nat × Raw)}, who.ref? = some r → w.Given ticket n r →
      w.sites[n]? = some site → Yield n who w.env site.pool s.env s.pool →
      (∀ r, who = .detach r → r ∈ site.pool.active → (site.pool.handle r).valid = true →
        HandsOver n (site.pool.connOf r) w
          { ((w.after n site s).spend ticket n r).wakeAll n with loose }) →
      Shift w { ((w.after n site s).spend ticket n r).wakeAll n with loose } := by
    intro ticket n site who r s loose hr hg hn hy hd
    have hspend : Beside (w.after n site s) ((w.after n site s).spend ticket n r) :=
      (Beside.refl _).spend hg
    have hb := hspend.wakeAll n
    refine shift_of_yield hn hy (fun t ht => ?_) ⟨hb.env, hb.connects, hb.given, hb.waiting⟩ rfl rfl
      (fun v => site_ne_of_wakeAll) (fun t ht ha hv => ?_)
    · cases hr.symm.trans ht
      exact ⟨ticket, hg⟩
    · subst ht
      cases hr
      exact hd r rfl ha hv
  -- Every connection is given up, and those who wait for the pool are woken.
  have hdrop : ∀ {n : Nat} {site : Site S} {s : Scene S}, w.sites[n]? = some site →
      Yield n .all w.env site.pool s.env s.pool → Shift w ((w.after n site s).wakeAll n) := by
    intro n site s hn hy
    exact shift_of_yield hn hy (fun t ht => nomatch ht) ((Beside.refl _).wakeAll n) rfl rfl
      (fun v => site_ne_of_wakeAll) nofun
  cases action with
  | release ticket =>
    obtain ⟨n, r, site, hheld, hn, -, rfl⟩ := act_release h
    exact hback rfl (held?_eq_some hheld).1 hn (release_yields r (w.scene n site)).2 nofun
  | detach ticket =>
    obtain ⟨n, r, site, w₁, hheld, hn, rfl, ⟨howned, heq⟩ | ⟨howned, heq⟩⟩ := act_detach h
    all_goals
      have hy := (detach_yields r (w.scene n site)).2
      have hg := (held?_eq_some hheld).1
      cases heq
      refine hback rfl hg hn hy fun t ht ha hv => ?_
      cases ht
    · exact ⟨ticket, r, _, _, hheld, rfl, h⟩
    · rw [detach_owned] at howned
      exact absurd howned (by simp [scene, ha, hv])
  | interrupt i =>
    obtain ⟨interrupt, -, heq⟩ := Option.map_eq_some_iff.1 h
    cases heq
    have hb : Beside w (w.setFlag interrupt true) := .of_same (.refl _) rfl rfl rfl
    exact .aside (hb.wakeAll interrupt.site) rfl
  | reset i =>
    obtain ⟨interrupt, -, heq⟩ := Option.map_eq_some_iff.1 h
    cases heq
    exact .aside (.of_same (.refl _) rfl rfl rfl) rfl
  | change n c =>
    obtain ⟨site, hn, ⟨-, rfl, -, hy⟩ | ⟨-, rfl⟩⟩ := act_change h
    · exact hdrop hn hy
    · exact .aside (.refl _) rfl
  | forceClose n =>
    obtain ⟨site, hn, -, rfl⟩ := act_forceClose h
    exact hdrop hn (drain_yields (w.scene n site)).2
  | shutDown n =>
    obtain ⟨site, hn, -, ⟨rfl, -, hy⟩ | rfl⟩ := act_shutDown h
    · exact hdrop hn hy
    · exact .aside (.refl _) rfl
  | order n order =>
    obtain ⟨site, hsite, h⟩ := Option.bind_eq_some_iff.1 h
    obtain ⟨⟨reply, backend⟩, -, heq⟩ := Option.map_eq_some_iff.1 h
    have hn : w.sites[n]? = some site := (Option.filter_eq_some_iff.1 hsite).1
    cases reply <;> cases heq <;>
      exact .aside (.of_same (.refl _) rfl rfl rfl) (pools_set_same hn rfl)

theorem takeOne_shift {s : Step S (Bench.Order S)} {answer : Answer} (hs : s.isAtomic = true)
    (h : w.takeOne s = some (answer, w')) : Shift w w' := by
  have hbeside : ∀ w₁ : World S, w₁.env = w.env → w₁.tickets = w.tickets →
      w₁.waiters = w.waiters → w₁.pools = w.pools → Shift w w₁ := fun w₁ he ht hv hp =>
    .aside (.of_same (he ▸ .refl _) (congrArg _ he) ht hv) hp
  cases s with
  | acquire | batch | advance => exact nomatch hs
  | create backend source =>
    have heq : (w.create backend source).2 = w' := congrArg Prod.snd (Option.some.inj h)
    exact heq ▸ create_shift (.refl w) rfl backend source
  | createFrom backend text =>
    have heq : (w.createFrom backend text).2 = w' := congrArg Prod.snd (Option.some.inj h)
    exact heq ▸ createFrom_shift w backend text
  | act action => exact act_shift h
  | call ticket c => exact call_shift h
  | withConnection ticket u => exact withConnection_shift h
  | rawConnection ticket =>
    obtain ⟨_, -, heq⟩ := Option.map_eq_some_iff.1 h
    cases heq
    exact hbeside _ rfl rfl rfl rfl
  | useRaw slot u =>
    obtain ⟨_, -, h⟩ := Option.bind_eq_some_iff.1 h
    exact use_shift h
  | interruptHandle n =>
    obtain ⟨_, h, heq⟩ := Option.map_eq_some_iff.1 h
    obtain ⟨_, -, rfl⟩ := Option.map_eq_some_iff.1 h
    cases heq
    exact hbeside _ rfl rfl rfl rfl
  | cloneInterrupt i =>
    obtain ⟨_, h, heq⟩ := Option.map_eq_some_iff.1 h
    obtain ⟨_, -, rfl⟩ := Option.map_eq_some_iff.1 h
    cases heq
    exact hbeside _ rfl rfl rfl rfl
  | dropPool n =>
    obtain ⟨w₁, h, heq⟩ := Option.map_eq_some_iff.1 h
    cases heq
    unfold dropPool at h
    split at h
    · exact nomatch h
    · next site hsite =>
      split at h
      · exact nomatch h
      · cases h
        exact hbeside _ rfl rfl rfl (pools_set_same (Option.filter_eq_some_iff.1 hsite).1 rfl)

/-- A critical section is one of these. -/
theorem Section.shift (h : Section w w') : Shift w w' := by
  cases h with
  | step s hs h => exact takeOne_shift hs h
  | start n d hn h => exact demand_shift h
  | resume hv => exact resume_shift w _
  | pass t =>
    have he : w.env.Grows (w.passTo t).env :=
      ⟨Nat.le_max_left _ _, Nat.le_refl _, List.suffix_refl _⟩
    exact .aside (.of_same he rfl rfl rfl) rfl

end World

end ConnPool
