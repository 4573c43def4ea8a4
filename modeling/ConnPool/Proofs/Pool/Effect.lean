import ConnPool.Pool.Acquire
import ConnPool.Pool.Return
import ConnPool.Pool.Reconfigure
import ConnPool.Proofs.Talk
import ConnPool.Proofs.Pool.Table

/-!
# The effect of an act

An act is a computation on a scene. It changes the pool by a few pure functions and talks to the
backend in between, and a talk never touches the pool. So what becomes of the pool can be told
without the talk: each act below ends in a scene that is its start with the pool changed, some talk
later (`Scene.Chats`).
-/

namespace ConnPool

open Pool

variable {S : Type} {α β : Type}

/-! ## Acts as functions -/

namespace Pool

theorem bind_run (x : Act S α) (f : α → Act S β) (s : Scene S) :
    (x >>= f) s = f (x s).1 (x s).2 := rfl

theorem look_run (s : Scene S) : look s = (s.pool, s) := rfl

theorem now_run (s : Scene S) : now s = (s.env.now, s) := rfl

theorem handleAt_run (r : Ref) (s : Scene S) : handleAt r s = (s.pool.handle r, s) := rfl

theorem update_run (f : Pool → Pool) (s : Scene S) :
    update f s = ((), { s with pool := f s.pool }) := rfl

theorem retire_run (r : Ref) (state : HandleState) (s : Scene S) :
    retire r state s = ((), { s with pool := s.pool.withHandle r (·.retire state) }) := rfl

end Pool

/-! ## Scenes with the same pool -/

/-- The scene `s'` is `s` after some talk about the connections `conns`. -/
structure Scene.Chats (conns : List Nat) (s s' : Scene S) : Prop where
  pool : s'.pool = s.pool
  site : s'.site = s.site
  env : s.env.Later s.site conns s'.env

namespace Scene.Chats

variable {conns : List Nat} {s s₁ s₂ : Scene S}

theorem refl (conns : List Nat) (s : Scene S) : s.Chats conns s := ⟨rfl, rfl, .refl _ _ s.env⟩

theorem trans (h₁ : s.Chats conns s₁) (h₂ : s₁.Chats conns s₂) : s.Chats conns s₂ := by
  refine ⟨h₂.pool.trans h₁.pool, h₂.site.trans h₁.site, h₁.env.trans ?_⟩
  rw [← h₁.site]
  exact h₂.env

theorem mono {conns' : List Nat} (h : s.Chats conns s₁) (hsub : ∀ c ∈ conns, c ∈ conns') :
    s.Chats conns' s₁ := ⟨h.pool, h.site, h.env.mono hsub⟩

theorem talk {t : Talk S α} (ht : Talk.Concerns conns t) (s : Scene S) :
    s.Chats conns (Pool.talk t s).2 := ⟨rfl, (ht s.toLine).1, (ht s.toLine).2⟩

theorem note (conns : List Nat) (n : Notice) (s : Scene S) : s.Chats conns (Pool.note n s).2 :=
  ⟨rfl, rfl, s.env.later_note _ _ n⟩

theorem bind {x : Act S α} {f : α → Act S β} (hx : s.Chats conns (x s).2)
    (hf : ∀ a s', s.Chats conns s' → s.Chats conns (f a s').2) : s.Chats conns ((x >>= f) s).2 :=
  hf (x s).1 (x s).2 hx

theorem grows (h : s.Chats conns s₁) : s.env.Grows s₁.env := h.env.grows

/-- An act that ends in some talk. -/
theorem thenTalk {t : Talk S α} (h : s.Chats conns s₁) (ht : Talk.Concerns conns t) :
    s.Chats conns (Pool.talk t s₁).2 := h.trans (talk ht s₁)

theorem thenNote (h : s.Chats conns s₁) (n : Notice) : s.Chats conns (Pool.note n s₁).2 :=
  h.trans (note conns n s₁)

/-- A later change of the pool might as well have come before the talk. -/
theorem withPool (h : s.Chats conns s₁) (f : Pool → Pool) :
    Chats conns { s with pool := f s.pool } { s₁ with pool := f s₁.pool } :=
  ⟨congrArg f h.pool, h.site, h.env⟩

end Scene.Chats

/-! ## What acts end in -/

/-- From scene `s` the act ends with an answer and in a scene that satisfy `P`. -/
def Ends (x : Act S α) (s : Scene S) (P : α → Scene S → Prop) : Prop := P (x s).1 (x s).2

namespace Ends

variable {s : Scene S} {P : α → Scene S → Prop}

theorem pure {a : α} (h : P a s) : Ends (Pure.pure a) s P := h

theorem mono {x : Act S α} {Q : α → Scene S → Prop} (h : Ends x s P)
    (hPQ : ∀ a s', P a s' → Q a s') : Ends x s Q := hPQ _ _ h

theorem bind {x : Act S β} {f : β → Act S α} (h : Ends x s fun b s' => Ends (f b) s' P) :
    Ends (x >>= f) s P := h

theorem look {P : Pool → Scene S → Prop} (h : P s.pool s) : Ends look s P := h

theorem now {P : Instant → Scene S → Prop} (h : P s.env.now s) : Ends now s P := h

theorem handleAt {P : Handle → Scene S → Prop} {r : Ref} (h : P (s.pool.handle r) s) :
    Ends (handleAt r) s P := h

theorem update {P : Unit → Scene S → Prop} {f : Pool → Pool}
    (h : P () { s with pool := f s.pool }) : Ends (update f) s P := h

theorem count {P : Unit → Scene S → Prop} {f : Tally → Tally}
    (h : P () { s with pool.tally := f s.pool.tally }) : Ends (count f) s P := h

theorem retire {P : Unit → Scene S → Prop} {r : Ref} {state : HandleState}
    (h : P () { s with pool := s.pool.withHandle r (·.retire state) }) :
    Ends (retire r state) s P := h

theorem note {P : Unit → Scene S → Prop} {n : Notice}
    (h : P () { s with env := s.env.note n }) : Ends (note n) s P := h

theorem talk {t : Talk S α} {conns : List Nat} (ht : Talk.Concerns conns t)
    (h : ∀ a s', s.Chats conns s' → P a s') : Ends (talk t) s P :=
  h _ _ (.talk ht s)

/-- An act that is known to be some talk later than a scene. -/
theorem chats {x : Act S α} {conns : List Nat} {s₀ : Scene S} (hx : s₀.Chats conns (x s).2)
    (h : ∀ a s', s₀.Chats conns s' → P a s') : Ends x s P :=
  h _ _ hx

/-- An act of which something else is known besides. -/
theorem chatsAnd {x : Act S α} {conns : List Nat} {s₀ : Scene S} {Q : Scene S → Prop}
    (hx : s₀.Chats conns (x s).2) (hQ : Ends x s fun _ s' => Q s')
    (h : ∀ a s', s₀.Chats conns s' → Q s' → P a s') : Ends x s P :=
  h _ _ hx hQ

end Ends

/-! ## Care of one connection -/

namespace Pool

/-- The connection that a handle is around. -/
abbrev connOf (p : Pool) (r : Ref) : Nat := (p.handle r).raw.conn

variable [Backend S]

theorem isSound_of_retired {r : Ref} {s : Scene S} (h : (s.pool.handle r).valid = false) :
    isSound r s = (false, s) := by
  unfold isSound
  rw [bind_run, handleAt_run]
  dsimp only
  rw [h]
  rfl

theorem isSound_chats (r : Ref) (s : Scene S) :
    s.Chats [s.pool.connOf r] (isSound r s).2 := by
  unfold isSound
  rw [bind_run, handleAt_run]
  dsimp only
  split
  · rw [bind_run, look_run, bind_run, now_run]
    refine (Scene.Chats.talk (Talk.concerns_examine _ _ _) s).bind fun verdict s₁ h => ?_
    cases verdict.healthy with
    | true => exact h
    | false => exact (h.thenNote _).trans (.refl _ _)
  · exact .refl _ s

theorem isCleared_chats (r : Ref) (s : Scene S) :
    s.Chats [s.pool.connOf r] (isCleared r s).2 := by
  unfold isCleared
  rw [bind_run, handleAt_run]
  refine (Scene.Chats.talk (Talk.concerns_clearPending _) s).bind fun outcome s₁ h => ?_
  cases outcome with
  | ok _ => exact h
  | error fault => exact h.thenNote _

/-- A handle that is found sound is valid; to probe it is some talk about its connection. -/
theorem isSound_judges (r : Ref) (s : Scene S) :
    Ends (isSound r) s fun sound s' =>
      s.Chats [s.pool.connOf r] s' ∧ (sound = true → (s.pool.handle r).valid = true) := by
  refine ⟨isSound_chats r s, fun hsound => ?_⟩
  cases hv : (s.pool.handle r).valid with
  | true => rfl
  | false =>
    rw [isSound_of_retired hv] at hsound
    exact hsound

/-- A candidate that is found fit is valid; to judge it is some talk about its connection. -/
theorem isFit_judges (r : Ref) (s : Scene S) :
    Ends (isFit r) s fun fit s' =>
      s.Chats [s.pool.connOf r] s' ∧ (fit = true → (s.pool.handle r).valid = true) := by
  refine .bind <| (isSound_judges r s).mono fun sound s₁ ⟨h₁, hv⟩ => ?_
  cases sound with
  | false => exact .pure ⟨h₁, fun h => absurd h Bool.false_ne_true⟩
  | true =>
    have h₂ := isCleared_chats r s₁
    rw [h₁.pool] at h₂
    exact ⟨h₁.trans h₂, fun _ => hv rfl⟩

/-- A connection that the pool gets rid of: its handle is retired, and the rest is talk. -/
theorem scrap_chats (r : Ref) (s : Scene S) :
    Scene.Chats [s.pool.connOf r] { s with pool := s.pool.withHandle r (·.retire .invalid) }
      (scrap r s).2 := by
  unfold scrap
  rw [bind_run, handleAt_run, bind_run, retire_run]
  refine (Scene.Chats.talk (Talk.concerns_ask _ .isClosed) _).bind fun outcome s₁ h => ?_
  rcases outcome with fault | _ | _
  · exact h.thenTalk (Talk.concerns_dispose _)
  · exact h.thenTalk (Talk.concerns_dispose _)
  · exact h

theorem closeReturned_chats (r : Ref) (s : Scene S) :
    Scene.Chats [s.pool.connOf r] { s with pool := s.pool.withHandle r (·.retire .closed) }
      (closeReturned r s).2 := by
  unfold closeReturned
  rw [bind_run, handleAt_run, bind_run, retire_run]
  exact (Scene.Chats.talk (Talk.concerns_dispose _) _).thenNote _

theorem connOf_withHandle_retire (p : Pool) (r s : Ref) (state : HandleState) :
    (p.withHandle r (·.retire state)).connOf s = p.connOf s :=
  congrArg Raw.conn (raw_retire p r s state)

theorem giveUp_chats (r : Ref) (s : Scene S) :
    Scene.Chats [s.pool.connOf r] { s with pool := s.pool.withHandle r (·.retire .closed) }
      (giveUp r s).2 := by
  unfold giveUp
  rw [bind_run, handleAt_run, bind_run, retire_run]
  have hclear := isCleared_chats r { s with pool := s.pool.withHandle r (·.retire .closed) }
  rw [connOf_withHandle_retire] at hclear
  exact hclear.bind fun _ s₁ h => h.thenTalk (Talk.concerns_dispose _)

/-! ## Connections that are seen off -/

theorem ends_dispose {P : Unit → Scene S → Prop} {conn : Nat} {s : Scene S}
    (h : ∀ s', s.Chats [conn] s' → s.env.SeenOff s.site conn s'.env → P () s') :
    Ends (talk (Talk.dispose conn)) s P :=
  h _ (.talk (Talk.concerns_dispose conn) s) (Talk.seenOff_dispose conn s.toLine)

theorem ends_askClosed {P : Except Fault Bool → Scene S → Prop} {conn : Nat} {s : Scene S}
    (h : ∀ outcome s', s.Chats [conn] s' →
      (outcome = .ok true → s.env.SeenOff s.site conn s'.env) → P outcome s') :
    Ends (talk (Talk.ask conn .isClosed).run) s P :=
  h _ _ (.talk (Talk.concerns_ask conn .isClosed) s) Talk.seenOff_ask

/-- A connection that the pool gets rid of is told to close, unless it says that it is closed. -/
theorem scrap_seesOff (r : Ref) (s : Scene S) :
    Ends (scrap r) s fun _ s' => s.env.SeenOff s.site (s.pool.connOf r) s'.env := by
  refine .bind <| .handleAt <| .bind <| .retire <| .bind <|
    ends_askClosed fun outcome s₁ h₁ hclosed => ?_
  have hdispose : Ends (talk (Talk.dispose (s.pool.connOf r))) s₁ fun _ s' =>
      s.env.SeenOff s.site (s.pool.connOf r) s'.env := by
    refine ends_dispose fun s' _ h => ?_
    rw [h₁.site] at h
    exact .after h₁.grows h
  rcases outcome with fault | _ | _
  · exact hdispose
  · exact hdispose
  · exact hclosed rfl

/-- So is one that has no place in the idle list. -/
theorem closeReturned_seesOff (r : Ref) (s : Scene S) :
    Ends (closeReturned r) s fun _ s' => s.env.SeenOff s.site (s.pool.connOf r) s'.env :=
  .bind <| .handleAt <| .bind <| .retire <| .bind <| ends_dispose fun s' _ h =>
    h.before ((Env.Grows.refl s'.env).note _)

/-- So is one that the pool gives up. -/
theorem giveUp_seesOff (r : Ref) (s : Scene S) :
    Ends (giveUp r) s fun _ s' => s.env.SeenOff s.site (s.pool.connOf r) s'.env := by
  refine .bind <| .handleAt <| .bind <| .retire <| .bind <|
    .chats (isCleared_chats r _) fun _ s₁ h₁ => ends_dispose fun s' _ h => ?_
  rw [h₁.site] at h
  exact .after h₁.grows h

/-! ## Giving up every connection -/

/-- The pool with nothing left in its lists. -/
def emptied (p : Pool) : Pool :=
  retireAll { p with expected := p.target.endpoint, active := [], idle := [] } .closed
    (p.active.reverse ++ p.idle.reverse)

theorem emptied_eq (p : Pool) :
    p.emptied =
      { p with
        expected := p.target.endpoint
        active := []
        idle := []
        handles := p.emptied.handles } := retireAll_eq ..

@[simp] theorem settings_emptied (p : Pool) : p.emptied.settings = p.settings := by
  rw [emptied_eq]

@[simp] theorem target_emptied (p : Pool) : p.emptied.target = p.target := by rw [emptied_eq]

@[simp] theorem expected_emptied (p : Pool) : p.emptied.expected = p.target.endpoint := by
  rw [emptied_eq]

@[simp] theorem active_emptied (p : Pool) : p.emptied.active = [] := by rw [emptied_eq]

@[simp] theorem idle_emptied (p : Pool) : p.emptied.idle = [] := by rw [emptied_eq]

@[simp] theorem closed_emptied (p : Pool) : p.emptied.closed = p.closed := by rw [emptied_eq]

@[simp] theorem attempts_emptied (p : Pool) : p.emptied.attempts = p.attempts := by
  rw [emptied_eq]

@[simp] theorem length_emptied (p : Pool) : p.emptied.handles.length = p.handles.length :=
  length_retireAll ..

@[simp] theorem raw_emptied (p : Pool) (r : Ref) : (p.emptied.handle r).raw = (p.handle r).raw :=
  part_retireAll Handle.raw _ _ r fun _ => rfl

theorem Grown.emptied (p : Pool) : p.Grown p.emptied :=
  ⟨Nat.le_of_eq (length_emptied p).symm, fun r _ => raw_emptied p r⟩

@[simp] theorem endpoint_emptied (p : Pool) (r : Ref) :
    (p.emptied.handle r).data.endpoint = (p.handle r).data.endpoint :=
  part_retireAll (·.data.endpoint) _ _ r fun _ => rfl

theorem valid_emptied {p : Pool} {r : Ref} :
    (p.emptied.handle r).valid = true ↔ (p.handle r).valid = true ∧ r ∉ p.active ++ p.idle := by
  rw [emptied, valid_retireAll]
  refine and_congr Iff.rfl (not_congr ?_)
  simp

theorem handle_emptied_of_mem {p : Pool} {r : Ref} (hr : r ∈ p.active ++ p.idle)
    (hlt : r < p.handles.length) : p.emptied.handle r = (p.handle r).retire .closed :=
  handle_retireAll_of_mem (by simpa using hr) hlt

theorem handle_emptied_of_notMem {p : Pool} {r : Ref} (hr : r ∉ p.active ++ p.idle) :
    p.emptied.handle r = p.handle r :=
  handle_retireAll_of_notMem (by simpa using hr)

theorem forM_giveUp_chats (rs : List Ref) (s : Scene S) :
    Scene.Chats (rs.map s.pool.connOf) { s with pool := s.pool.retireAll .closed rs }
      (rs.forM giveUp s).2 := by
  induction rs generalizing s with
  | nil => exact .refl _ s
  | cons r rs ih =>
    have hfirst := giveUp_chats r s
    have hconns : rs.map (giveUp r s).2.pool.connOf = rs.map s.pool.connOf :=
      List.map_congr_left fun t _ => by
        rw [hfirst.pool]
        exact connOf_withHandle_retire s.pool r t .closed
    have hrest := ih (giveUp r s).2
    rw [hconns] at hrest
    refine ((hfirst.withPool (·.retireAll .closed rs)).mono ?_).trans (hrest.mono ?_)
    · simp
    · exact fun c hc => List.mem_cons_of_mem _ hc

theorem forM_giveUp_seesOff (rs : List Ref) (s : Scene S) :
    Ends (rs.forM giveUp) s fun _ s' =>
      ∀ r ∈ rs, s.env.SeenOff s.site (s.pool.connOf r) s'.env := by
  induction rs generalizing s with
  | nil => exact .pure fun _ hr => absurd hr List.not_mem_nil
  | cons r rs ih =>
    have hfirst := giveUp_chats r s
    have hrest := forM_giveUp_chats rs (giveUp r s).2
    intro t ht
    rcases List.mem_cons.1 ht with rfl | ht
    · exact (giveUp_seesOff t s).before hrest.grows
    · have h := ih (giveUp r s).2 t ht
      rw [hfirst.pool, connOf_withHandle_retire, hfirst.site] at h
      exact .after hfirst.grows h

theorem drain_chats (s : Scene S) :
    Scene.Chats ((s.pool.active.reverse ++ s.pool.idle.reverse).map s.pool.connOf)
      { s with pool := s.pool.emptied } (drain s).2 := by
  unfold drain
  rw [bind_run, look_run, bind_run, update_run]
  have hloop := forM_giveUp_chats (s.pool.active.reverse ++ s.pool.idle.reverse)
    { s with pool := { s.pool with expected := s.pool.target.endpoint, active := [], idle := [] } }
  exact hloop.thenNote _

/-- Every connection in the lists is told to close. -/
theorem drain_seesOff (s : Scene S) :
    Ends drain s fun _ s' =>
      ∀ conn ∈ (s.pool.active.reverse ++ s.pool.idle.reverse).map s.pool.connOf,
        s.env.SeenOff s.site conn s'.env := by
  refine .bind <| .look <| .bind <| .update <| .bind <|
    (forM_giveUp_seesOff _ _).mono fun _ s₁ h => .note fun conn hconn => ?_
  obtain ⟨r, hr, rfl⟩ := List.mem_map.1 hconn
  exact (h r hr).before ((Env.Grows.refl s₁.env).note _)

end Pool

end ConnPool
