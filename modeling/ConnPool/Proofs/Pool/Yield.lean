import ConnPool.Proofs.Pool.Seek

/-!
# What callers give back

Besides the turns of acquires, a pool changes when a handle is returned or detached and when all its
connections are given up. `Yield` lists what such an operation can come to, in the same way as
`Seek` lists the steps of a turn: the premises are what the code has checked, and what the backend
answers is left open.

**Theorems (`release_yields`, `detach_yields`, `drain_yields`, `change_yields`,
`shutDown_yields`).** Each operation is one of these, or changes nothing.
-/

namespace ConnPool

open Pool

namespace Pool

/-! ## What the operations do to the pool -/

/-- A handle was taken off the checkouts. -/
def checkedIn (p : Pool) (r : Ref) : Pool := { p with active := p.active.erase r }

@[simp] theorem handle_checkedIn (p : Pool) (r s : Ref) :
    (p.checkedIn r).handle s = p.handle s := rfl

/-- A handle was returned in a bad state. -/
def spurned (p : Pool) (r : Ref) : Pool :=
  { p.checkedIn r with tally := { p.tally with bad := p.tally.bad + 1 } }

/-- A bad connection was returned, and its handle retired. -/
def discarded (p : Pool) (r : Ref) : Pool := (p.spurned r).withHandle r (·.retire .invalid)

/-- A checkout ended at an instant with a sound connection. -/
def timed (p : Pool) (r : Ref) (t : Instant) : Pool :=
  { p.checkedIn r with
    tally := { p.tally with
      checkoutTime := p.tally.checkoutTime + (p.handle r).data.checkoutTime t } }

/-- A connection was put into the idle list under a new handle. -/
def stored (p : Pool) (r : Ref) (t : Instant) (id : Nat) : Pool :=
  { (p.timed r t).passOn r .invalid ((p.handle r).data.renew id).rest with
    idle := p.idle ++ [p.handles.length] }

/-- A returned connection had no place in the idle list. -/
def closedOut (p : Pool) (r : Ref) (t : Instant) : Pool :=
  (p.timed r t).withHandle r (·.retire .closed)

/-- A connection was taken out of the pool. -/
def detached (p : Pool) (r : Ref) : Pool := (p.checkedIn r).withHandle r (·.retire .invalid)

/-- The pool with the parts set that a change names. -/
def changed (p : Pool) (c : Change) : Pool :=
  { p with settings := c.onSettings p.settings, target := c.onTarget p.target }

/-- The connections in the lists of a pool. -/
def pooled (p : Pool) : List Nat := (p.active.reverse ++ p.idle.reverse).map p.connOf

end Pool

/-! ## The operations -/

/-- What callers give back to a pool. -/
inductive Handback
  /-- A handle, with its connection. -/
  | release (r : Ref)
  /-- A handle, whose connection they keep. -/
  | detach (r : Ref)
  /-- All connections, by order and not one by one. -/
  | all

/-- The handle that is given back, if it is a single one. -/
def Handback.ref? : Handback → Option Ref
  | .release r | .detach r => some r
  | .all => none

/-- What an operation other than an acquire does at pool `n`, with what is given back. -/
inductive Yield (n : Nat) : Handback → Env → Pool → Env → Pool → Prop
  | spurn {e p r e'} (hv : (p.handle r).valid = false) (he : e.Later n [p.connOf r] e') :
      Yield n (.release r) e p e' (p.spurned r)
  | discard {e p r e'} (hv : (p.handle r).valid = true) (he : e.Later n [p.connOf r] e')
      (hd : e.SeenOff n (p.connOf r) e') : Yield n (.release r) e p e' (p.discarded r)
  | store {e p r t e'} (hv : (p.handle r).valid = true) (hk : p.keeps r = true)
      (ht : e.now ≤ t ∧ t ≤ e'.now) (he : e.Later n [p.connOf r] e') :
      Yield n (.release r) e p (e'.renewed.note (.returned (p.handle r).raw.id))
        (p.stored r t e'.nextHandle)
  | close {e p r t e'} (hv : (p.handle r).valid = true) (ht : e.now ≤ t ∧ t ≤ e'.now)
      (he : e.Later n [p.connOf r] e') (hd : e.SeenOff n (p.connOf r) e') :
      Yield n (.release r) e p e' (p.closedOut r t)
  | letGo {e p r} (h : ¬(r ∈ p.active ∧ (p.handle r).valid = true)) :
      Yield n (.detach r) e p e (p.checkedIn r)
  | detach {e p r} (ha : r ∈ p.active) (hv : (p.handle r).valid = true) :
      Yield n (.detach r) e p (e.note (.detached (p.handle r).raw.id)) (p.detached r)
  | drain {e p e'} (he : e.Later n p.pooled e')
      (hd : ∀ conn ∈ p.pooled, e.SeenOff n conn e') : Yield n .all e p e' p.emptied
  | change {e p c e'} (hc : (c.onSettings p.settings).problem? = none)
      (he : e.Later n p.pooled e') (hd : ∀ conn ∈ p.pooled, e.SeenOff n conn e') :
      Yield n .all e p e' (p.changed c).emptied
  | shutDown {e p e'} (ho : p.closed = false) (he : e.Later n p.pooled e')
      (hd : ∀ conn ∈ p.pooled, e.SeenOff n conn e') :
      Yield n .all e p e' { p with closed := true }.emptied

theorem Yield.grows {n : Nat} {who : Handback} {e e' : Env} {p p' : Pool}
    (h : Yield n who e p e' p') : e.Grows e' := by
  cases h with
  | letGo => exact .refl _
  | detach => exact (Env.Grows.refl _).note _
  | spurn _ he | discard _ he | close _ _ he | drain he | change _ he | shutDown _ he =>
    exact he.grows
  | store _ _ _ he => exact ⟨he.now, he.grows.nextRaw, he.grows.calls⟩

theorem Yield.connects {n : Nat} {who : Handback} {e e' : Env} {p p' : Pool}
    (h : Yield n who e p e' p') : e'.connects = e.connects := by
  cases h with
  | letGo | detach => rfl
  | spurn _ he | discard _ he | close _ _ he | drain he | change _ he | shutDown _ he =>
    exact he.connects
  | store _ _ _ he => exact he.connects

theorem Yield.attempts {n : Nat} {who : Handback} {e e' : Env} {p p' : Pool}
    (h : Yield n who e p e' p') : p'.attempts = p.attempts := by
  cases h with
  | spurn | discard | store | close | letGo | detach => rfl
  | drain | change | shutDown => exact attempts_emptied _

theorem Yield.grown {n : Nat} {who : Handback} {e e' : Env} {p p' : Pool}
    (h : Yield n who e p e' p') : p.Grown p' := by
  cases h with
  | spurn | letGo => exact .of_handles rfl
  | discard | close | detach =>
    refine (Grown.withHandle _ _ ?_).trans (.of_handles rfl)
    exact fun _ => rfl
  | store => exact (Grown.passOn ..).trans (.of_handles rfl)
  | drain | change | shutDown =>
    refine Grown.trans ?_ (.emptied _)
    exact .of_handles rfl

/-- A handle that still owns its connection is detached with it. -/
theorem Yield.detached {n : Nat} {e e' : Env} {p p' : Pool} {r : Ref}
    (h : Yield n (.detach r) e p e' p') (ha : r ∈ p.active) (hv : (p.handle r).valid = true) :
    e' = e.note (.detached (p.handle r).raw.id) ∧ p' = p.detached r := by
  cases h with
  | letGo hn => exact absurd ⟨ha, hv⟩ hn
  | detach => exact ⟨rfl, rfl⟩

/-- The settings that an operation sets are fit for use. -/
theorem Yield.fit {n : Nat} {who : Handback} {e e' : Env} {p p' : Pool}
    (h : Yield n who e p e' p') (hfit : p.settings.problem? = none) :
    p'.settings.problem? = none := by
  cases h with
  | spurn | discard | store | close | letGo | detach => exact hfit
  | drain | shutDown =>
    rw [settings_emptied]
    exact hfit
  | change hc =>
    rw [settings_emptied]
    exact hc

/-! ## The code does nothing else -/

namespace Pool

variable {S : Type}

/-- To store a connection is to pass it on to a handle that rests in the idle list. -/
theorem ends_store {P : Unit → Scene S → Prop} {r : Ref} {s : Scene S}
    (hr : r < s.pool.handles.length)
    (h : P () { s with
      env := s.env.renewed.note (.returned (s.pool.handle r).raw.id)
      pool := { s.pool.passOn r .invalid
          ((s.pool.handle r).data.renew s.env.nextHandle).rest with
        idle := s.pool.idle ++ [s.pool.handles.length] } }) : Ends (store r) s P := by
  have hnew : (s.pool.passOn r .invalid ((s.pool.handle r).data.renew s.env.nextHandle).rest).handle
      s.pool.handles.length = ⟨(s.pool.handle r).raw, true,
        ((s.pool.handle r).data.renew s.env.nextHandle).rest⟩ := handle_passOn_new ..
  refine .bind <| ends_renew <| .bind <| .update <| .bind <| .retire <| .bind <| .handleAt ?_
  simp only [withHandle_add_self, withHandle_add _ _ _ hr]
  unfold passOn at hnew
  rw [hnew]
  exact .bind <| .note <| .update h

/-- A handle is detached with success if it is checked out and valid. -/
theorem detach_owned (r : Ref) (s : Scene S) :
    (detach r s).1 = (s.pool.active.contains r && (s.pool.handle r).valid) := by
  unfold detach
  rw [bind_run, look_run, bind_run, update_run]
  split <;> rfl

theorem detach_yields (r : Ref) (s : Scene S) :
    Ends (detach r) s fun _ s' =>
      s'.site = s.site ∧ Yield s.site (.detach r) s.env s.pool s'.env s'.pool := by
  refine .bind <| .look <| .bind <| .update ?_
  by_cases h : r ∈ s.pool.active ∧ (s.pool.handle r).valid = true
  · have howned : (s.pool.active.contains r && (s.pool.handle r).valid) = true := by
      simpa using h
    simp only [howned]
    exact .bind <| .retire <| .bind <| .note <| .pure ⟨rfl, .detach h.1 h.2⟩
  · have howned : ¬(s.pool.active.contains r && (s.pool.handle r).valid) = true := by
      simpa using h
    simp only [howned]
    exact .pure ⟨rfl, .letGo h⟩

variable [Backend S]

/-- The end of the return of a sound connection, some talk after its checkout was counted. -/
theorem keepOrClose_yields {r : Ref} {s s₁ : Scene S} {t : Instant} (clean : Bool)
    (hv : (s.pool.handle r).valid = true) (ht : s.env.now ≤ t ∧ t ≤ s₁.env.now)
    (h : Scene.Chats [s.pool.connOf r] { s with pool := s.pool.timed r t } s₁) :
    Ends (if clean && s₁.pool.keeps r then store r else closeReturned r) s₁ fun _ s' =>
      s'.site = s.site ∧ Yield s.site (.release r) s.env s.pool s'.env s'.pool := by
  have hkeeps : s₁.pool.keeps r = s.pool.keeps r := by
    rw [h.pool]
    rfl
  by_cases hk : (clean && s₁.pool.keeps r) = true
  · rw [if_pos hk]
    have hr : r < s₁.pool.handles.length := by
      rw [h.pool]
      exact lt_of_valid hv
    refine ends_store hr ⟨h.site, ?_⟩
    rw [Bool.and_eq_true, hkeeps] at hk
    rw [h.pool]
    exact .store hv hk.2 ht h.env
  · rw [if_neg hk]
    refine .chatsAnd (closeReturned_chats r s₁) (closeReturned_seesOff r s₁) fun _ s₂ h₂ hseen => ?_
    rw [h.pool] at h₂ hseen
    rw [h.site] at hseen
    refine ⟨h₂.site.trans h.site, ?_⟩
    rw [h₂.pool]
    have henv := h.env.trans (h.site ▸ h₂.env)
    exact .close hv ⟨ht.1, Nat.le_trans ht.2 h₂.env.now⟩ henv (.after h.grows hseen)

theorem release_yields (r : Ref) (s : Scene S) :
    Ends (release r) s fun _ s' =>
      s'.site = s.site ∧ Yield s.site (.release r) s.env s.pool s'.env s'.pool := by
  refine .bind <| .update <| .bind <| (isSound_judges r _).mono fun sound s₁ hsound => ?_
  obtain ⟨h₁, hv⟩ : Scene.Chats [s.pool.connOf r] { s with pool := s.pool.checkedIn r } s₁ ∧
    (sound = true → (s.pool.handle r).valid = true) := hsound
  cases sound with
  | true =>
    refine .bind <| .now <| .bind <| .handleAt <| .bind <| .count <| .bind ?_
    rw [h₁.pool]
    refine .chats (isCleared_chats r _) fun clean s₂ h₂ => .bind <| .look ?_
    have htimed := h₁.withPool fun _ => s.pool.timed r s₁.env.now
    exact keepOrClose_yields clean (hv rfl) ⟨h₁.env.now, h₂.env.now⟩ (htimed.trans h₂)
  | false =>
    refine .bind <| .handleAt <| .bind <| .note <| .bind <| .count ?_
    simp only [h₁.pool, handle_checkedIn]
    have henv := h₁.env.trans (s₁.env.later_note _ _ (.returnedBad (s.pool.handle r).raw.id))
    by_cases hv : (s.pool.handle r).valid = true
    · rw [if_pos hv]
      refine .chatsAnd (scrap_chats r _) (scrap_seesOff r _) fun _ s₂ h₂ hseen =>
        ⟨h₂.site.trans h₁.site, ?_⟩
      rw [h₂.pool]
      exact .discard hv (henv.trans (h₁.site ▸ h₂.env)) (.after henv.grows (h₁.site ▸ hseen))
    · rw [if_neg hv]
      exact .pure ⟨h₁.site, .spurn (by simpa using hv) henv⟩

theorem drain_yields (s : Scene S) :
    Ends drain s fun _ s' => s'.site = s.site ∧ Yield s.site .all s.env s.pool s'.env s'.pool := by
  refine .chatsAnd (drain_chats s) (drain_seesOff s) fun _ s' h hseen => ⟨h.site, ?_⟩
  rw [h.pool]
  exact .drain h.env hseen

/-- A change that is carried out gives up every connection; one that is refused changes nothing. -/
theorem change_yields (c : Change) (s : Scene S) :
    Ends (change c) s fun outcome s' =>
      (outcome = .ok () ∧ s'.site = s.site ∧ Yield s.site .all s.env s.pool s'.env s'.pool) ∨
      ((∃ e, outcome = .error e) ∧ s' = s) := by
  refine .bind <| .look ?_
  split
  · exact .pure (.inr ⟨⟨_, rfl⟩, rfl⟩)
  · next hc =>
    refine .bind <| .update <| .bind <|
      .chatsAnd (drain_chats _) (drain_seesOff _) fun _ s' h hseen => ?_
    refine .pure (.inl ⟨rfl, h.site, ?_⟩)
    rw [h.pool]
    exact .change hc h.env hseen

/-- A shutdown gives up every connection; that of a pool that is shut down changes nothing. -/
theorem shutDown_yields (s : Scene S) :
    Ends shutDown s fun wasOpen s' =>
      (wasOpen = true ∧ s'.site = s.site ∧ Yield s.site .all s.env s.pool s'.env s'.pool) ∨
      (wasOpen = false ∧ s' = s) := by
  refine .bind <| .look ?_
  by_cases hc : s.pool.closed = true
  · rw [if_pos hc]
    exact .pure (.inr ⟨rfl, rfl⟩)
  · rw [if_neg hc]
    refine .bind <| .update <| .bind <|
      .chatsAnd (drain_chats _) (drain_seesOff _) fun _ s₁ h hseen => ?_
    have hnote := h.thenNote .shutDown
    refine .bind <| .note <| .pure (.inl ⟨rfl, h.site, ?_⟩)
    rw [h.pool]
    exact .shutDown (by simpa using hc) hnote.env fun conn hconn =>
      (hseen conn hconn).before ((Env.Grows.refl _).note _)

end Pool

end ConnPool
