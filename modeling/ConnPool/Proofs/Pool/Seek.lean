import ConnPool.Proofs.Pool.Effect
import Mathlib.Logic.Relation

/-!
# The steps of a turn

A turn of an acquire is a loop: it takes a candidate in hand, judges it, and hands it out or goes on
to the next one. `Seek` is one step of the loop. Its premises are what the code has checked by then,
and its effect is all that the code does to the pool; what the backend answers is left open.

**Theorems (`begin_turns`, `resume_turns`).** Every turn is a sequence of such steps. What each step
preserves is therefore preserved by a turn, whatever the backend does.
-/

namespace ConnPool

open Pool

/-! ## Stages -/

/-- Where a turn of an acquire stands. -/
inductive Phase
  /-- The acquire was woken after it began to wait at an instant. -/
  | woken (since : Instant) (a : Acquire)
  /-- It looks for a candidate. -/
  | seeking (a : Acquire)
  /-- It has a candidate in hand, which is in no list of the pool. -/
  | judging (a : Acquire) (r : Ref)
  /-- The turn is over. -/
  | ended (turn : Turn)

/-- A turn starts when the acquire is made or woken. -/
def Phase.Starts : Phase → Prop
  | .woken .. | .seeking _ => True
  | _ => False

/-- What a turn has to do with: the environment, the pool, and where it stands. -/
structure Stage where
  env : Env
  pool : Pool
  phase : Phase

/-- The stage of a turn in a scene. -/
def Scene.stage {S : Type} (s : Scene S) (phase : Phase) : Stage := ⟨s.env, s.pool, phase⟩

/-- The environment after a new connection was wrapped. -/
def Env.wrapped (e : Env) : Env :=
  { e with nextRaw := e.nextRaw + 1, nextHandle := e.nextHandle + 1 }

/-- The environment after a connection got a new handle. -/
def Env.renewed (e : Env) : Env := { e with nextHandle := e.nextHandle + 1 }

namespace Pool

/-! ## What the steps do to the pool -/

/-- An acquire that waited is awake again. -/
def roused (p : Pool) (since now : Instant) : Pool :=
  { p with tally := { p.tally with waitTime := p.tally.waitTime + (now - since) } }

/-- A new connection was opened in an environment and wrapped. -/
def opened (p : Pool) (e : Env) (login : Option (String × String)) : Pool :=
  let target := p.target.withLogin login
  { p with attempts := p.attempts + 1 }.add
    ⟨⟨e.nextRaw, p.attempts + 1, target⟩, true,
      .first e.nextHandle e.nextRaw target.endpoint e.now⟩

/-- The oldest checkout, which lasted for `held`, was taken over. -/
def takenOver (p : Pool) (r : Ref) (rest : List Ref) (held : Span) (id : Nat) : Pool :=
  { p with
    active := rest
    tally := { p.tally with
      claimed := p.tally.claimed + 1
      overdueTime := p.tally.overdueTime + held
      checkoutTime := p.tally.checkoutTime + held } }.passOn r .reclaimed
    ((p.handle r).data.renew id)

/-- A candidate was handed out. -/
def handedOut (p : Pool) (a : Acquire) (r : Ref) (now : Instant) : Pool :=
  { p.withHandle r fun h =>
      { h with data := h.data.checkOut (p.target.withLogin a.login).endpoint now } with
    active := p.active ++ [r]
    tally := { p.tally with
      requests := p.tally.requests + 1
      requestTime := p.tally.requestTime + (now - a.started) } }

/-- A bad candidate was discarded. -/
def rejected (p : Pool) (r : Ref) : Pool :=
  { p with tally := { p.tally with bad := p.tally.bad + 1 } }.withHandle r (·.retire .invalid)

/-- The acquire was counted among those that had to wait, if it was not before. -/
def counted (p : Pool) (a : Acquire) : Pool :=
  { p with
    tally := if a.waitCounted then p.tally else { p.tally with waits := p.tally.waits + 1 } }

/-! ## Saturation -/

/-- How long the oldest checkout has lasted. -/
def oldestHeld (p : Pool) (t : Instant) : Option Span :=
  p.active.head?.map fun r => (p.handle r).data.checkoutTime t

/-- The pool has no candidate to offer. -/
structure Saturated (p : Pool) (t : Instant) : Prop where
  isOpen : p.closed = false
  idle : p.idle = []
  full : p.settings.maxActive ≤ p.active.length
  fresh : ∀ held, p.oldestHeld t = some held → held ≤ p.settings.checkoutTimeout

/-- The pool has no idle connection to offer and may open a new one. -/
structure HasRoom (p : Pool) : Prop where
  isOpen : p.closed = false
  idle : p.idle = []
  room : p.active.length < p.settings.maxActive

end Pool

/-! ## Steps -/

/-- One step of a turn at pool `n`, with the flag that interrupts the acquire. -/
inductive Seek (n : Nat) (raised : Bool) : Stage → Stage → Prop
  | rouse {e p since a} (hr : raised = false) :
      Seek n raised ⟨e, p, .woken since a⟩ ⟨e, p.roused since e.now, .seeking a⟩
  | stop {e p since a} (hr : raised = true) :
      Seek n raised ⟨e, p, .woken since a⟩
        ⟨e.note .interrupted, p.roused since e.now, .ended (.done a (.error .interrupted))⟩
  | shut {e p a} (hc : p.closed = true) :
      Seek n raised ⟨e, p, .seeking a⟩ ⟨e, p, .ended (.done a (.error .closed))⟩
  | takeIdle {e p a r rest} (ho : p.closed = false) (hi : p.idle = r :: rest) :
      Seek n raised ⟨e, p, .seeking a⟩
        ⟨e.note (.idleTaken (p.handle r).raw.id), { p with idle := rest }, .judging a r⟩
  | refused {e p a e' outcome fault} (h : p.HasRoom)
      (he : e.Opens n (p.attempts + 1) (p.target.withLogin a.login) outcome e')
      (hd : outcome = .ok () → e.SeenOff n (p.attempts + 1) e') :
      Seek n raised ⟨e, p, .seeking a⟩
        ⟨e', { p with attempts := p.attempts + 1 }, .ended (.done a (.error (.factory fault)))⟩
  | openNew {e p a e'} (h : p.HasRoom)
      (he : e.Opens n (p.attempts + 1) (p.target.withLogin a.login) (.ok ()) e') :
      Seek n raised ⟨e, p, .seeking a⟩
        ⟨e'.wrapped.note (.opened e'.nextRaw), p.opened e' a.login, .judging a p.handles.length⟩
  | takeOver {e p a r rest held e'} (ho : p.closed = false) (hi : p.idle = [])
      (hf : p.settings.maxActive ≤ p.active.length) (ha : p.active = r :: rest)
      (hh : held = (p.handle r).data.checkoutTime e.now)
      (ht : p.settings.checkoutTimeout < held) (he : e.Later n [p.connOf r] e') :
      Seek n raised ⟨e, p, .seeking a⟩
        ⟨e'.renewed.note (.claimed (p.handle r).raw.id held),
          p.takenOver r rest held e'.nextHandle, .judging a p.handles.length⟩
  | handOut {e p a r e'} (hv : (p.handle r).valid = true) (he : e.Later n [p.connOf r] e') :
      Seek n raised ⟨e, p, .judging a r⟩ ⟨e', p.handedOut a r e'.now, .ended (.done a (.ok r))⟩
  | reject {e p a r e'} (hb : a.bad < p.settings.badLimit) (he : e.Later n [p.connOf r] e')
      (hd : e.SeenOff n (p.connOf r) e') :
      Seek n raised ⟨e, p, .judging a r⟩
        ⟨e', p.rejected r, .seeking { a with bad := a.bad + 1 }⟩
  | giveUp {e p a r e'} (hb : p.settings.badLimit ≤ a.bad) (he : e.Later n [p.connOf r] e')
      (hd : e.SeenOff n (p.connOf r) e') :
      Seek n raised ⟨e, p, .judging a r⟩
        ⟨e', p.rejected r,
          .ended (.done { a with bad := a.bad + 1 } (.error (.exhausted (a.bad + 1))))⟩
  | interrupted {e p a} (h : p.Saturated e.now) (hr : raised = true) :
      Seek n raised ⟨e, p, .seeking a⟩
        ⟨e.note .interrupted, p.counted a,
          .ended (.done { a with waitCounted := true } (.error .interrupted))⟩
  | timeOut {e p a} (h : p.Saturated e.now) (hr : raised = false)
      (hw : p.settings.waitSpan (e.now - a.waitBegan.getD e.now) (p.oldestHeld e.now) = none) :
      Seek n raised ⟨e, p, .seeking a⟩
        ⟨e.note (.timedOut p.settings.waitTimeout), p.counted a,
          .ended (.done { a with waitCounted := true }
            (.error (.timeout p.settings.waitTimeout)))⟩
  | sleep {e p a d} (h : p.Saturated e.now) (hr : raised = false)
      (hw : p.settings.waitSpan (e.now - a.waitBegan.getD e.now) (p.oldestHeld e.now) = some d) :
      Seek n raised ⟨e, p, .seeking a⟩
        ⟨e.note (.waiting d), p.counted a,
          .ended (.sleep
            { a with
              waitCounted := true
              waitBegan :=
                if p.settings.indefiniteWait then a.waitBegan
                else some (a.waitBegan.getD e.now) } d)⟩

/-- The steps of a turn, from one stage to a later one. -/
abbrev Seeks (n : Nat) (raised : Bool) : Stage → Stage → Prop :=
  Relation.ReflTransGen (Seek n raised)

theorem Seek.settings {n : Nat} {raised : Bool} {g g' : Stage} (h : Seek n raised g g') :
    g'.pool.settings = g.pool.settings := by
  cases h <;> rfl

theorem Seek.grown {n : Nat} {raised : Bool} {g g' : Stage} (h : Seek n raised g g') :
    g.pool.Grown g'.pool := by
  cases h with
  | rouse | stop | shut | takeIdle | refused | interrupted | timeOut | sleep =>
    exact .of_handles rfl
  | openNew => exact (Grown.add ..).trans (.of_handles rfl)
  | takeOver => exact (Grown.passOn ..).trans (.of_handles rfl)
  | handOut | reject | giveUp =>
    refine (Grown.withHandle _ _ ?_).trans (.of_handles rfl)
    exact fun _ => rfl

theorem Seeks.grown {n : Nat} {raised : Bool} {g g' : Stage} (h : Seeks n raised g g') :
    g.pool.Grown g'.pool := by
  induction h with
  | refl => exact .of_handles rfl
  | tail _ st ih => exact ih.trans st.grown

theorem Seek.grows {n : Nat} {raised : Bool} {g g' : Stage} (h : Seek n raised g g') :
    g.env.Grows g'.env := by
  cases h with
  | rouse | shut => exact .refl _
  | stop | takeIdle | interrupted | timeOut | sleep => exact (Env.Grows.refl _).note _
  | refused _ he => exact he.grows
  | handOut _ he | reject _ he | giveUp _ he => exact he.grows
  | openNew _ he => exact ⟨he.now, Nat.le_succ_of_le he.grows.nextRaw, he.grows.calls⟩
  | takeOver _ _ _ _ _ _ he => exact ⟨he.now, he.grows.nextRaw, he.grows.calls⟩

theorem Seeks.grows {n : Nat} {raised : Bool} {g g' : Stage} (h : Seeks n raised g g') :
    g.env.Grows g'.env := by
  induction h with
  | refl => exact .refl _
  | tail _ st ih => exact ih.trans st.grows

theorem Seeks.settings {n : Nat} {raised : Bool} {g g' : Stage} (hs : Seeks n raised g g') :
    g'.pool.settings = g.pool.settings := by
  induction hs with
  | refl => rfl
  | tail _ st ih => exact st.settings.trans ih

/-- A turn that is over has a last step. -/
theorem Seeks.last {n : Nat} {raised : Bool} {g : Stage} {e : Env} {p : Pool} {turn : Turn}
    (hs : Seeks n raised g ⟨e, p, .ended turn⟩) (hstart : g.phase.Starts) :
    ∃ g₁, Seeks n raised g g₁ ∧ Seek n raised g₁ ⟨e, p, .ended turn⟩ := by
  rcases Relation.ReflTransGen.cases_tail hs with heq | ⟨g₁, hs₁, st⟩
  · rw [← heq] at hstart
    exact hstart.elim
  · exact ⟨g₁, hs₁, st⟩

/-- A step asks for no connection, or for the next one. -/
theorem Seek.connects {n : Nat} {raised : Bool} {g g' : Stage} (h : Seek n raised g g') :
    (g'.env.connects = g.env.connects ∧ g'.pool.attempts = g.pool.attempts) ∨
    (∃ target outcome, g'.env.connects =
      ⟨n, g.pool.attempts + 1, .connect target outcome⟩ :: g.env.connects) ∧
        g'.pool.attempts = g.pool.attempts + 1 := by
  cases h with
  | rouse | stop | shut | takeIdle | interrupted | timeOut | sleep => exact .inl ⟨rfl, rfl⟩
  | takeOver _ _ _ _ _ _ he => exact .inl ⟨he.connects, rfl⟩
  | handOut _ he | reject _ he | giveUp _ he => exact .inl ⟨he.connects, rfl⟩
  | refused _ he | openNew _ he => exact .inr ⟨⟨_, _, he.connects⟩, rfl⟩

/-! ## The code takes these steps -/

namespace Pool

variable {S : Type}

theorem ends_wrap {P : Ref → Scene S → Prop} {conn : Nat} {target : Target} {s : Scene S}
    (h : P s.pool.handles.length
      { s with
        env := s.env.wrapped
        pool := s.pool.add ⟨⟨s.env.nextRaw, conn, target⟩, true,
          .first s.env.nextHandle s.env.nextRaw target.endpoint s.env.now⟩ }) :
    Ends (wrap conn target) s P := h

theorem ends_renew {P : Ref → Scene S → Prop} {r : Ref} {s : Scene S}
    (h : P s.pool.handles.length
      { s with
        env := s.env.renewed
        pool := s.pool.add ⟨(s.pool.handle r).raw, true,
          (s.pool.handle r).data.renew s.env.nextHandle⟩ }) :
    Ends (renew r) s P := h

theorem ends_oldestCheckout {P : Option Span → Scene S → Prop} {s : Scene S}
    (h : P (s.pool.oldestHeld s.env.now) s) : Ends oldestCheckout s P := h

theorem ends_handOut {P : Unit → Scene S → Prop} {a : Acquire} {r : Ref} {s : Scene S}
    (h : P () { s with pool := s.pool.handedOut a r s.env.now }) : Ends (handOut a r) s P := h

/-- To renew a handle that was retired is to renew the handle that it was. -/
theorem add_retired (p : Pool) (r : Ref) (state : HandleState) (id : Nat) :
    (p.withHandle r (·.retire state)).add
        ⟨((p.withHandle r (·.retire state)).handle r).raw, true,
          ((p.withHandle r (·.retire state)).handle r).data.renew id⟩ =
      p.passOn r state ((p.handle r).data.renew id) := by
  rcases Nat.lt_or_ge r p.handles.length with hr | hr
  · rw [handle_withHandle_self _ hr]
    rfl
  · have hr' : (p.withHandle r (·.retire state)).handles.length ≤ r := by
      rwa [length_withHandle]
    rw [passOn, handle_of_length_le hr, handle_of_length_le hr']

/-- The turn at pool `n` that stands at stage `g` ends with an answer in a scene. -/
def Turns (n : Nat) (raised : Bool) (g : Stage) (turn : Turn) (s : Scene S) : Prop :=
  s.site = n ∧ Seeks n raised g (s.stage (.ended turn))

theorem wait_turns (raised : Bool) (a : Acquire) (s : Scene S) (h : s.pool.Saturated s.env.now) :
    Ends (wait raised a) s (Turns s.site raised (s.stage (.seeking a))) := by
  unfold wait
  extract_lets a' rest
  have hrest : Ends (rest ()) { s with pool := s.pool.counted a }
      (Turns s.site raised (s.stage (.seeking a))) := by
    by_cases hr : raised = true
    · simp only [rest, if_pos hr]
      exact .bind <| .note <| .pure ⟨rfl, .single (.interrupted h hr)⟩
    · simp only [rest, if_neg hr]
      have hr : raised = false := by simpa using hr
      refine .bind <| .look <| .bind <| .now <| .bind <| ends_oldestCheckout ?_
      split
      · next hw => exact .bind <| .note <| .pure ⟨rfl, .single (.timeOut h hr hw)⟩
      · next d hw => exact .bind <| .note <| .pure ⟨rfl, .single (.sleep h hr hw)⟩
  cases hw : a.waitCounted with
  | true =>
    simp only [counted, hw, if_true] at hrest
    exact hrest
  | false =>
    simp only [counted, hw] at hrest
    exact .bind <| .count hrest

/-! ## The loop of a turn -/

variable [Backend S]

theorem ends_connect {P : Except Fault Unit → Scene S → Prop} {conn : Nat} {target : Target}
    {s : Scene S}
    (h : ∀ outcome s', s'.pool = s.pool → s'.site = s.site →
      s.env.Opens s.site conn target outcome s'.env → P outcome s') :
    Ends (talk (Talk.connect conn target).run) s P :=
  h _ _ rfl rfl (Talk.opens_connect conn target s.toLine)

/-- How the look for a candidate ends in scene `s`: with a step of the turn, or without a change in
a saturated pool. -/
inductive Offers (raised : Bool) (a : Acquire) (s : Scene S) :
    Except PoolError (Option Ref) → Scene S → Prop
  | fails {error s'} (hs : s'.site = s.site)
      (h : Seek s.site raised (s.stage (.seeking a)) (s'.stage (.ended (.done a (.error error))))) :
      Offers raised a s (.error error) s'
  | finds {r s'} (hs : s'.site = s.site)
      (h : Seek s.site raised (s.stage (.seeking a)) (s'.stage (.judging a r))) :
      Offers raised a s (.ok (some r)) s'
  | nothing (h : s.pool.Saturated s.env.now) : Offers raised a s (.ok none) s

theorem openNew_offers (raised : Bool) (a : Acquire) (s : Scene S) (h : s.pool.HasRoom) :
    Ends (openNew a.login) s fun outcome => Offers raised a s (outcome.map some) := by
  refine .bind <| .look <| .bind <| .update <| .bind <|
    ends_connect fun outcome s₁ hpool hsite hopens => ?_
  cases outcome with
  | error fault =>
    refine .pure (.fails hsite ?_)
    rw [Scene.stage, Scene.stage, hpool]
    exact .refused h hopens nofun
  | ok _ =>
    refine .bind <| .talk (Talk.concerns_prepare _ _) fun outcome s₂ h₂ => ?_
    have hopened := hopens.thenLater (hsite ▸ h₂.env)
    cases outcome with
    | error fault =>
      refine .bind <| ends_dispose fun s₃ h₃ hseen => ?_
      rw [h₂.site, hsite] at hseen
      refine .pure (.fails (h₃.site.trans (h₂.site.trans hsite)) ?_)
      rw [Scene.stage, Scene.stage, h₃.pool, h₂.pool, hpool]
      refine .refused h (hopened.thenLater ?_) fun _ => .after hopened.grows hseen
      rw [← hsite, ← h₂.site]
      exact h₃.env
    | ok _ =>
      refine .bind <| ends_wrap <| .bind <| .handleAt <| .bind <| .note <| .pure ?_
      refine .finds (h₂.site.trans hsite) ?_
      simp only [h₂.pool, hpool, handle_add_self]
      exact .openNew h hopened

theorem takeOver_offers (raised : Bool) (a : Acquire) (s : Scene S) (ho : s.pool.closed = false)
    (hi : s.pool.idle = []) (hf : s.pool.settings.maxActive ≤ s.pool.active.length) :
    Ends takeOver s fun found => Offers raised a s (.ok found) := by
  refine .bind <| .look ?_
  split
  · next ha => exact .pure (.nothing ⟨ho, hi, hf, by simp [oldestHeld, ha]⟩)
  · next r rest ha =>
    refine .bind <| .now ?_
    by_cases ht : (s.pool.handle r).data.checkoutTime s.env.now ≤ s.pool.settings.checkoutTimeout
    · rw [if_pos ht]
      exact .pure (.nothing ⟨ho, hi, hf, by simp [oldestHeld, ha, ht]⟩)
    · rw [if_neg ht]
      refine .bind <| .update <| .bind <| .count <| .bind <| .retire ?_
      refine .bind <| .talk (Talk.concerns_clearPending _) fun outcome s₁ h₁ => ?_
      -- A fault of the rollback goes to the log and makes no other difference.
      have hnext : ∀ s₂, s₁.Chats [s.pool.connOf r] s₂ →
          Ends (do
            let fresh ← renew r
            note (.claimed (s.pool.handle r).raw.id
              ((s.pool.handle r).data.checkoutTime s.env.now))
            return some fresh : Act S (Option Ref)) s₂
              fun found => Offers raised a s (.ok found) := by
        intro s₂ h₂
        have h₁₂ := h₁.trans h₂
        refine .bind <| ends_renew <| .bind <| .note <| .pure (.finds h₁₂.site ?_)
        simp only [Scene.stage, h₁₂.pool, length_withHandle, add_retired]
        exact .takeOver ho hi hf ha rfl (Nat.lt_of_not_le ht) h₁₂.env
      cases outcome with
      | ok _ => exact hnext s₁ (.refl _ s₁)
      | error fault => exact .bind <| .note <| hnext _ (.note _ _ s₁)

theorem nextCandidate_offers (raised : Bool) (a : Acquire) (s : Scene S)
    (ho : s.pool.closed = false) : Ends (nextCandidate a.login) s (Offers raised a s) := by
  refine .bind <| .look ?_
  split
  · next r rest hi =>
    exact .bind <| .update <| .bind <| .note <| .pure (.finds rfl (.takeIdle ho hi))
  · next hi =>
    by_cases hf : s.pool.active.length < s.pool.settings.maxActive
    · rw [if_pos hf]
      exact openNew_offers raised a s ⟨ho, hi, hf⟩
    · rw [if_neg hf]
      exact takeOver_offers raised a s ho hi (Nat.le_of_not_lt hf)

theorem reject_chats (r : Ref) (s : Scene S) :
    Scene.Chats [s.pool.connOf r] { s with pool := s.pool.rejected r } (reject r s).2 :=
  (Scene.Chats.note _ (.candidateBad (s.pool.handle r).raw.id) _).trans
    (scrap_chats r
      { s with
        env := s.env.note (.candidateBad (s.pool.handle r).raw.id)
        pool := { s.pool with tally := { s.pool.tally with bad := s.pool.tally.bad + 1 } } })

theorem reject_seesOff (r : Ref) (s : Scene S) :
    Ends (reject r) s fun _ s' => s.env.SeenOff s.site (s.pool.connOf r) s'.env :=
  .after ((Env.Grows.refl _).note _) (scrap_seesOff r _)

/-- The rest of a search that has rejected a candidate. -/
def searchOn (raised : Bool) (tolerated : Nat) (a : Acquire) : Act S Turn :=
  match tolerated with
  | 0 => do
    note (.gaveUp a.bad)
    return .done a (.error (.exhausted a.bad))
  | tolerated + 1 => search raised tolerated a

/-- What is left to show of a search is how it goes on after a rejected candidate. -/
theorem search_turns_of {n : Nat} {raised : Bool} {tolerated : Nat} {a : Acquire} {s : Scene S}
    (hs : s.site = n)
    (hon : ∀ r (s₁ s₂ : Scene S), s₁.site = n → s₁.pool.settings = s.pool.settings →
      Scene.Chats [s₁.pool.connOf r] { s₁ with pool := s₁.pool.rejected r } s₂ →
      s₁.env.SeenOff n (s₁.pool.connOf r) s₂.env →
      Ends (searchOn raised tolerated { a with bad := a.bad + 1 }) s₂
        (Turns n raised (s₁.stage (.judging a r)))) :
    Ends (search raised tolerated a) s (Turns n raised (s.stage (.seeking a))) := by
  unfold search
  refine .bind <| .look ?_
  by_cases hc : s.pool.closed = true
  · rw [if_pos hc]
    exact .pure ⟨hs, .single (.shut hc)⟩
  rw [if_neg hc]
  refine .bind <| (nextCandidate_offers raised a s (by simpa using hc)).mono fun found s₁ h => ?_
  cases h with
  | fails hs₁ h => exact .pure ⟨hs₁.trans hs, hs ▸ .single h⟩
  | nothing h => exact hs ▸ wait_turns raised a s h
  | finds hs₁ h =>
    rename_i r
    rw [hs] at hs₁ h
    refine .bind <| (isFit_judges r s₁).mono fun fit s₂ ⟨h₂, hv⟩ => ?_
    have henv : s₁.env.Later n [s₁.pool.connOf r] s₂.env := hs₁ ▸ h₂.env
    cases fit with
    | true =>
      refine .bind <| ends_handOut <| .pure ⟨h₂.site.trans hs₁, .head h (.single ?_)⟩
      simp only [Scene.stage, h₂.pool]
      exact .handOut (hv rfl) henv
    | false =>
      refine .bind <| .chatsAnd (reject_chats r s₂) (reject_seesOff r s₂) fun _ s₃ h₃ hseen => ?_
      have hconn : s₂.pool.connOf r = s₁.pool.connOf r := by rw [h₂.pool]
      rw [hconn] at h₃ hseen
      rw [h₂.site, hs₁] at hseen
      have hafter := hon r s₁ s₃ hs₁ h.settings ((h₂.withPool (·.rejected r)).trans h₃)
        (.after h₂.grows hseen)
      exact hafter.mono fun turn s₄ ⟨hs₄, ht⟩ => ⟨hs₄, .head h ht⟩

theorem search_turns (n : Nat) (raised : Bool) (tolerated : Nat) (a : Acquire) (s : Scene S)
    (hs : s.site = n) (ht : tolerated = s.pool.settings.badLimit - a.bad) :
    Ends (search raised tolerated a) s (Turns n raised (s.stage (.seeking a))) := by
  induction tolerated generalizing a s with
  | zero =>
    refine search_turns_of hs fun r s₁ s₂ hs₁ hset h hseen => ?_
    refine .bind <| .note <| .pure ⟨h.site.trans hs₁, .single ?_⟩
    simp only [Scene.stage, h.pool]
    exact .giveUp (by rw [hset]; omega) (hs₁ ▸ h.env.trans (s₂.env.later_note _ _ _))
      (hseen.before ((Env.Grows.refl _).note _))
  | succ tolerated ih =>
    refine search_turns_of hs fun r s₁ s₂ hs₁ hset h hseen => ?_
    have hlimit : tolerated = s₂.pool.settings.badLimit - (a.bad + 1) := by
      rw [h.pool]
      change tolerated = s₁.pool.settings.badLimit - (a.bad + 1)
      rw [hset]
      omega
    refine (ih { a with bad := a.bad + 1 } s₂ (h.site.trans hs₁) hlimit).mono
      fun turn s₃ ⟨hs₃, ht⟩ => ⟨hs₃, .head ?_ ht⟩
    simp only [Scene.stage, h.pool]
    exact .reject (by rw [hset]; omega) (hs₁ ▸ h.env) hseen

theorem serve_turns (raised : Bool) (a : Acquire) (s : Scene S) :
    Ends (serve raised a) s (Turns s.site raised (s.stage (.seeking a))) :=
  .bind <| .look <| search_turns s.site raised _ a s rfl rfl

/-- The first turn of an acquire is a sequence of steps. -/
theorem begin_turns (raised : Bool) (login : Option (String × String)) (s : Scene S) :
    Ends (begin raised login) s
      (Turns s.site raised (s.stage (.seeking { login, started := s.env.now }))) :=
  .bind <| .now <| serve_turns raised _ s

/-- A later turn of an acquire is a sequence of steps. -/
theorem resume_turns (raised : Bool) (since : Instant) (a : Acquire) (s : Scene S) :
    Ends (resume raised since a) s (Turns s.site raised (s.stage (.woken since a))) := by
  refine .bind <| .now <| .bind <| .count ?_
  by_cases hr : raised = true
  · rw [if_pos hr]
    exact .bind <| .note <| .pure ⟨rfl, .single (.stop hr)⟩
  · rw [if_neg hr]
    exact (serve_turns raised a _).mono fun turn s' ⟨hs, ht⟩ =>
      ⟨hs, .head (.rouse (by simpa using hr)) ht⟩

end Pool

end ConnPool
