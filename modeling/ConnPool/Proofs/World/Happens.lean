import ConnPool.Proofs.World.Queue

/-!
# What happens in a critical section

`Shift` and `Calm` tell of a critical section what it does to the pools and to the queue, and leave
out what they do not need. `Happens` leaves out nothing: each of its cases says what becomes of the
world as a whole, so that what a critical section does to any other part of it can be read off from
five cases.

* `use_happens`, `act_happens`, `takeOne_happens`: what the steps of callers come to.

**Theorem (`Section.happens`).** Nothing else happens in a critical section.
-/

namespace ConnPool.World

open Pool

variable {S : Type}

/-- Backends may be given orders and the log goes on, but no connection is called and no handle is
made. Interrupt handles and blocked acquires are left alone. -/
structure Silent (w w' : World S) : Prop where
  calls : w'.env.calls = w.env.calls
  nextHandle : w'.env.nextHandle = w.env.nextHandle
  interrupts : w'.interrupts = w.interrupts
  flags : w'.flags = w.flags
  waiters : w'.waiters = w.waiters

namespace Silent

variable {w w₁ w' : World S}

theorem trans (h₁ : Silent w w₁) (h₂ : Silent w₁ w') : Silent w w' where
  calls := h₂.calls.trans h₁.calls
  nextHandle := h₂.nextHandle.trans h₁.nextHandle
  interrupts := h₂.interrupts.trans h₁.interrupts
  flags := h₂.flags.trans h₁.flags
  waiters := h₂.waiters.trans h₁.waiters

theorem create (w : World S) (backend : S) (source : Properties.Source) :
    Silent w (w.create backend source).2 := by
  unfold World.create
  split <;> exact ⟨rfl, rfl, rfl, rfl, rfl⟩

theorem createFrom (w : World S) (backend : S) (text : String) :
    Silent w (w.createFrom backend text).2 := by
  have hnotes : ∀ (keys : List String) (w : World S),
      Silent w (keys.foldl (fun w key => w.note (.keyIgnored key)) w) := by
    intro keys
    induction keys with
    | nil => exact fun w => ⟨rfl, rfl, rfl, rfl, rfl⟩
    | cons key rest ih =>
      intro w
      have hfirst : Silent w (w.note (.keyIgnored key)) := ⟨rfl, rfl, rfl, rfl, rfl⟩
      exact hfirst.trans (ih _)
  unfold World.createFrom
  dsimp only
  split
  · exact hnotes _ w
  · exact (hnotes _ w).trans (create ..)

end Silent

variable [Bench S] {w w' : World S} {n : Nat} {answer : Answer}

/-- A caller uses a raw connection of pool `n` without a handle. -/
def UsesRaw (n conn : Nat) (w w' : World S) : Prop :=
  ∃ slot raw u answer, w.loose[slot]? = some (n, raw) ∧ raw.conn = conn ∧
    w.takeOne (.useRaw slot u) = some (answer, w')

/-- What callers do with interrupt handles. -/
inductive Signals (w w' : World S) : Prop
  /-- A handle is made, with a flag of its own. -/
  | make (n : Nat) (hi : w'.interrupts = w.interrupts ++ [⟨n, w.flags.length⟩])
      (hf : w'.flags = w.flags ++ [false]) (hv : w'.waiters = w.waiters)
  /-- A handle is cloned. -/
  | clone (x : Interrupt) (hx : x ∈ w.interrupts) (hi : w'.interrupts = w.interrupts ++ [x])
      (hf : w'.flags = w.flags) (hv : w'.waiters = w.waiters)
  /-- A handle is raised, and those who wait for its pool are woken. -/
  | raise (i : Nat) (x : Interrupt) (hx : w.interrupts[i]? = some x)
      (ha : w.act (.interrupt i) = some (.done, w'))
      (hw : w' = (w.setFlag x true).wakeAll x.site)
  /-- A handle is reset. -/
  | lower (i : Nat) (x : Interrupt) (hx : w.interrupts[i]? = some x) (hw : w' = w.setFlag x false)

/-- What happens in a critical section. -/
inductive Happens (w w' : World S) : Prop
  | aside (h : Silent w w')
  | signal (h : Signals w w') (he : w'.env = w.env)
  /-- A connection is used by its caller, who has a valid handle or goes past the pool. -/
  | talk {n conn : Nat} {site : Site S} {s : Scene S} (hn : w.sites[n]? = some site)
      (hs : (w.scene n site).Chats [conn] s) (hw : w' = w.after n site s)
      (hconn : (∃ t r h, w.held? t = some (n, r, h) ∧ h.valid = true ∧ h.raw.conn = conn) ∨
        UsesRaw n conn w w')
  /-- Something is given back to a pool, and those who wait for it are woken. -/
  | yield {n : Nat} {site : Site S} {who : Handback} {s : Scene S} (hn : w.sites[n]? = some site)
      (hy : Yield n who w.env site.pool s.env s.pool)
      (hw : w' = { (w.after n site s).wakeAll n with tickets := w'.tickets, loose := w'.loose })
      (hr : ∀ r, who = .release r →
        ∃ t, w.held? t = some (n, r, site.pool.handle r) ∧
          w.act (.release t) = some (.done, w'))
  /-- An acquire that was not blocked, or is not any more, has a turn. -/
  | turn {t n : Nat} {flag : Option Nat} {site : Site S} {phase : Phase} {turn : Turn} {s : Scene S}
      {tickets : List Ticket} {waiters : List Waiter} (hn : w.sites[n]? = some site)
      (hphase : phase.Starts)
      (hs : Seeks n (w.isRaised flag) ⟨w.env, site.pool, phase⟩ ⟨s.env, s.pool, .ended turn⟩)
      (hv : ∀ v ∈ waiters, v ∈ w.waiters)
      (hw : w' = ({ w with tickets, waiters }.after n site s).endTurn t n flag turn)

/-! ## Steps of callers -/

theorem use_happens {conn : Nat} {u : Use (Bench.Order S)}
    (h : w.use n conn u = some (answer, w'))
    (hconn : (∃ t r h, w.held? t = some (n, r, h) ∧ h.valid = true ∧ h.raw.conn = conn) ∨
      UsesRaw n conn w w') : Happens w w' := by
  have htalk : ∀ {α : Type} {t : Talk S α} {a : α}, Talk.Concerns [conn] t →
      w.actOn n (Pool.talk t) = some (a, w') → Happens w w' := by
    intro α t a ht h
    obtain ⟨site, hn, -, hw⟩ := actOn_eq_some h
    exact .talk hn (.talk ht _) hw hconn
  cases u with
  | ask question =>
    obtain ⟨⟨outcome, w₁⟩, h, heq⟩ := Option.map_eq_some_iff.1 h
    cases outcome <;> cases heq <;> exact htalk (Talk.concerns_ask conn question) h
  | tell command =>
    obtain ⟨⟨outcome, w₁⟩, h, heq⟩ := Option.map_eq_some_iff.1 h
    cases outcome <;> cases heq <;> exact htalk (Talk.concerns_tell conn command) h
  | order order =>
    obtain ⟨site, -, h⟩ := Option.bind_eq_some_iff.1 h
    obtain ⟨⟨reply, backend⟩, -, heq⟩ := Option.map_eq_some_iff.1 h
    cases heq
    exact .aside ⟨rfl, rfl, rfl, rfl, rfl⟩
  | look =>
    cases h
    exact .aside ⟨rfl, rfl, rfl, rfl, rfl⟩

theorem withConnection_happens {t : Nat} {u : Use (Bench.Order S)}
    (h : w.withConnection t u = some (answer, w')) : Happens w w' := by
  obtain ⟨⟨n, r, handle⟩, hh, h⟩ := Option.bind_eq_some_iff.1 h
  dsimp only at h
  split at h
  · next hv => exact use_happens h (.inl ⟨t, r, handle, hh, hv, rfl⟩)
  · cases h
    exact .aside ⟨rfl, rfl, rfl, rfl, rfl⟩

theorem act_happens {action : Action (Bench.Order S)} (h : w.act action = some (answer, w')) :
    Happens w w' := by
  cases action with
  | release t =>
    have hact := h
    obtain ⟨n, r, site, hh, hn, rfl, rfl⟩ := act_release h
    refine .yield hn (release_yields r (w.scene n site)).2 rfl fun s hs => ?_
    cases hs
    exact ⟨t, hh, hact⟩
  | detach t =>
    obtain ⟨n, r, site, w₁, -, hn, rfl, hend⟩ := act_detach h
    have hy := (detach_yields r (w.scene n site)).2
    rcases hend with ⟨-, heq⟩ | ⟨-, heq⟩ <;> cases heq <;> exact .yield hn hy rfl nofun
  | interrupt i =>
    obtain ⟨x, hx, heq⟩ := Option.map_eq_some_iff.1 h
    cases heq
    exact .signal (.raise i x hx h rfl) rfl
  | reset i =>
    obtain ⟨x, hx, heq⟩ := Option.map_eq_some_iff.1 h
    cases heq
    exact .signal (.lower i x hx rfl) rfl
  | change n c =>
    obtain ⟨site, hn, ⟨-, rfl, -, hy⟩ | ⟨-, rfl⟩⟩ := act_change h
    · exact .yield hn hy rfl nofun
    · exact .aside ⟨rfl, rfl, rfl, rfl, rfl⟩
  | forceClose n =>
    obtain ⟨site, hn, -, rfl⟩ := act_forceClose h
    exact .yield hn (drain_yields (w.scene n site)).2 rfl nofun
  | shutDown n =>
    obtain ⟨site, hn, -, ⟨rfl, -, hy⟩ | rfl⟩ := act_shutDown h
    · exact .yield hn hy rfl nofun
    · exact .aside ⟨rfl, rfl, rfl, rfl, rfl⟩
  | order n order =>
    obtain ⟨site, -, h⟩ := Option.bind_eq_some_iff.1 h
    obtain ⟨⟨reply, backend⟩, -, heq⟩ := Option.map_eq_some_iff.1 h
    cases reply <;> cases heq <;> exact .aside ⟨rfl, rfl, rfl, rfl, rfl⟩

theorem takeOne_happens {s : Step S (Bench.Order S)} (hs : s.isAtomic = true)
    (h : w.takeOne s = some (answer, w')) : Happens w w' := by
  cases s with
  | acquire | batch | advance => exact absurd hs Bool.false_ne_true
  | create backend source =>
    have heq : (w.create backend source).2 = w' := congrArg Prod.snd (Option.some.inj h)
    exact .aside (heq ▸ .create w backend source)
  | createFrom backend text =>
    have heq : (w.createFrom backend text).2 = w' := congrArg Prod.snd (Option.some.inj h)
    exact .aside (heq ▸ .createFrom w backend text)
  | act action => exact act_happens h
  | call t c =>
    obtain ⟨⟨answer₁, w₁⟩, h, heq⟩ := Option.map_eq_some_iff.1 h
    have hsame := withConnection_happens h
    cases answer₁ <;> cases heq <;> exact hsame
  | withConnection t u => exact withConnection_happens h
  | rawConnection t =>
    obtain ⟨_, -, heq⟩ := Option.map_eq_some_iff.1 h
    cases heq
    exact .aside ⟨rfl, rfl, rfl, rfl, rfl⟩
  | useRaw slot u =>
    have htaken := h
    obtain ⟨⟨n, raw⟩, hslot, h⟩ := Option.bind_eq_some_iff.1 h
    exact use_happens h (.inr ⟨slot, raw, u, answer, hslot, rfl, htaken⟩)
  | interruptHandle n =>
    obtain ⟨_, h, heq⟩ := Option.map_eq_some_iff.1 h
    obtain ⟨_, -, rfl⟩ := Option.map_eq_some_iff.1 h
    cases heq
    exact .signal (.make n rfl rfl rfl) rfl
  | cloneInterrupt i =>
    obtain ⟨_, h, heq⟩ := Option.map_eq_some_iff.1 h
    obtain ⟨x, hx, rfl⟩ := Option.map_eq_some_iff.1 h
    cases heq
    exact .signal (.clone x (List.mem_of_getElem? hx) rfl rfl rfl) rfl
  | dropPool n =>
    obtain ⟨w₁, h, heq⟩ := Option.map_eq_some_iff.1 h
    cases heq
    unfold dropPool at h
    split at h
    · cases h
    · split at h
      · cases h
      · cases h
        exact .aside ⟨rfl, rfl, rfl, rfl, rfl⟩

/-! ## Critical sections -/

theorem Section.happens (hs : Section w w') (hw : Reachable w) : Happens w w' := by
  cases hs with
  | step s hs h => exact takeOne_happens hs h
  | pass t => exact .aside ⟨rfl, rfl, rfl, rfl, rfl⟩
  | @resume v hv =>
    have hn := List.getElem?_eq_getElem (hw.queued.site v hv)
    obtain ⟨turn, s, heq, hseeks⟩ := resume_turns hn
    have hstarts : (Phase.woken v.began v.acquire).Starts := trivial
    exact .turn hn hstarts hseeks (fun u hu => (mem_without.1 hu).1) heq
  | start n d hn h =>
    rcases demand_cases h with ⟨flag, rfl⟩ | ⟨cause, rfl⟩
    · obtain ⟨site, hsite⟩ := Option.isSome_iff_exists.1 hn
      have hn := (Option.filter_eq_some_iff.1 hsite).1
      obtain ⟨turn, s, heq, hseeks⟩ := start_turns hn d.login flag
      have hstarts : (Phase.seeking { login := d.login, started := w.env.now }).Starts := trivial
      exact .turn hn hstarts hseeks (fun _ hu => hu) heq
    · exact .aside ⟨rfl, rfl, rfl, rfl, rfl⟩

end ConnPool.World
