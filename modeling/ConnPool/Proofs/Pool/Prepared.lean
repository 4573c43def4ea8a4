import ConnPool.Proofs.Pool.Upkeep

/-!
# Prepared connections

A new connection is set to the defaults of its target before anybody gets it. The journal shows it:
right after the call that opened the connection come the orders for the defaults, each with success
(`Env.Prepared`). An order that the connections of the backend do not take is left out.

A connection around which the pool has a handle was opened and prepared in this way, whatever else
happened to it since (`Scene.Preparing`), and no move of the pool makes up another one
(`upkeep_preparing`).

**Theorem (`Seeks.aims`).** A turn asks for connections to the target that the pool has at that
time, with the login of its own acquire.
-/

namespace ConnPool

open Pool

/-! ## The journal of a preparation -/

variable {S : Type} [Backend S]

/-- The calls that open a connection and set it to the defaults of its target, latest first. -/
def Raw.opening (S : Type) [Backend S] (n : Nat) (raw : Raw) : List Call :=
  ((raw.target.defaults.filter (Backend.takes S)).map
      fun command => ⟨n, raw.conn, .tell command (.ok ())⟩).reverse ++
    [⟨n, raw.conn, .connect raw.target (.ok ())⟩]

/-- The connection was opened for pool `n` and set to the defaults of its target there and then. -/
def Env.Prepared (S : Type) [Backend S] (n : Nat) (raw : Raw) (e : Env) : Prop :=
  raw.opening S n <:+: e.calls

theorem Env.Prepared.grows {n : Nat} {raw : Raw} {e e' : Env} (h : e.Prepared S n raw)
    (he : e.Grows e') : e'.Prepared S n raw :=
  h.trans he.calls.isInfix

/-- An order that goes well is in the journal with its success, if the connection takes it. -/
theorem Talk.calls_tell {conn : Nat} {command : Command} {l : Line S}
    (h : ((Talk.tell conn command : Attempt S Unit).run l).1 = .ok ()) :
    ((Talk.tell conn command : Attempt S Unit).run l).2.env.calls =
      (([command].filter (Backend.takes S)).map
        fun command => ⟨l.site, conn, .tell command (.ok ())⟩).reverse ++ l.env.calls := by
  unfold Talk.tell at h ⊢
  by_cases htakes : Backend.takes S command = true
  · rw [if_pos htakes] at h ⊢
    have hcall :
        ((Talk.exchange conn (.tell command) (Backend.tell conn command)).run l).2.env.calls =
          ⟨l.site, conn, .tell command
            ((Talk.exchange conn (.tell command) (Backend.tell conn command)).run l).1⟩ ::
              l.env.calls := rfl
    rw [hcall, h]
    simp [htakes]
  · rw [if_neg htakes]
    simp only [List.filter_singleton, htakes]
    rfl

/-- The orders for the defaults are in the journal when all of them went well. -/
theorem Talk.calls_prepare {conn : Nat} {target : Target} {l : Line S}
    (h : ((Talk.prepare conn target : Attempt S Unit).run l).1 = .ok ()) :
    ((Talk.prepare conn target : Attempt S Unit).run l).2.env.calls =
      ((target.defaults.filter (Backend.takes S)).map
        fun command => ⟨l.site, conn, .tell command (.ok ())⟩).reverse ++ l.env.calls := by
  rw [prepare_eq] at h ⊢
  generalize target.defaults = commands at h ⊢
  induction commands generalizing l with
  | nil => rfl
  | cons command rest ih =>
    change ((tell conn command >>= fun _ => rest.forM (tell conn)).run l).1 = .ok () at h
    change ((tell conn command >>= fun _ => rest.forM (tell conn)).run l).2.env.calls = _
    rw [attempt_run] at h ⊢
    cases hfirst : ((tell conn command : Attempt S Unit).run l).1 with
    | error fault =>
      rw [hfirst] at h
      exact nomatch h
    | ok _ =>
      rw [hfirst] at h
      have hsite := (concerns_tell conn command l).1
      refine (ih h).trans ?_
      rw [calls_tell hfirst, hsite, ← List.append_assoc, ← List.reverse_append, ← List.map_append,
        ← List.filter_append]
      rfl

/-! ## Handles around prepared connections -/

/-- The handles of the later scene are around connections that the earlier one knew, or that were
prepared since. -/
structure Scene.Preparing (s s' : Scene S) : Prop where
  site : s'.site = s.site
  env : s.env.Grows s'.env
  raw : ∀ h ∈ s'.pool.handles, h.raw = default ∨ (∃ h₀ ∈ s.pool.handles, h₀.raw = h.raw) ∨
    s'.env.Prepared S s.site h.raw

namespace Scene.Preparing

theorem same {s s' : Scene S} (hs : s'.site = s.site) (he : s.env.Grows s'.env)
    (hh : s'.pool.handles = s.pool.handles) : s.Preparing s' :=
  ⟨hs, he, fun h hmem => .inr (.inl ⟨h, hh ▸ hmem, rfl⟩)⟩

theorem trans {s s₁ s₂ : Scene S} (h₁ : s.Preparing s₁) (h₂ : s₁.Preparing s₂) :
    s.Preparing s₂ where
  site := h₂.site.trans h₁.site
  env := h₁.env.trans h₂.env
  raw h hmem := by
    rcases h₂.raw h hmem with hdefault | ⟨h', hmem', heq⟩ | hprepared
    · exact .inl hdefault
    · rw [← heq]
      exact (h₁.raw h' hmem').imp_right (.imp_right fun hp => hp.grows h₂.env)
    · exact .inr (.inr (h₁.site ▸ hprepared))

end Scene.Preparing

theorem openNew_preparing (login : Option (String × String)) (s : Scene S) :
    Ends (openNew login) s fun _ s' => s.Preparing s' := by
  refine .bind <| .look <| .bind <| .update <| .bind <| ends_talk fun s₁ hp₁ hl₁ => ?_
  -- The call to open the connection is the latest one by now.
  have hopens := Talk.opens_connect (s.pool.attempts + 1) (s.pool.target.withLogin login) s.toLine
  have hsite₁ : s₁.site = s.site := (congrArg Line.site hl₁).trans rfl
  have hgrows₁ : s.env.Grows s₁.env := by
    rw [congrArg Line.env hl₁]
    exact hopens.grows
  have hhandles₁ : s₁.pool.handles = s.pool.handles := (congrArg Pool.handles hp₁).trans rfl
  split
  · exact .pure (.same hsite₁ hgrows₁ hhandles₁)
  · next hconnect =>
    have hcalls₁ : s₁.env.calls = ⟨s.site, s.pool.attempts + 1,
        .connect (s.pool.target.withLogin login) (.ok ())⟩ :: s.env.calls := by
      rw [congrArg Line.env hl₁, ← hconnect]
      rfl
    refine .bind <| ends_talk fun s₂ hp₂ hl₂ => ?_
    have hconcerns := Talk.concerns_prepare (S := S) (s.pool.attempts + 1)
      (s.pool.target.withLogin login) s₁.toLine
    have hsite₂ : s₂.site = s.site := by
      rw [congrArg Line.site hl₂, hconcerns.1, hsite₁]
    have hgrows₂ : s.env.Grows s₂.env := by
      rw [congrArg Line.env hl₂]
      exact hgrows₁.trans hconcerns.2.grows
    have hhandles₂ : s₂.pool.handles = s.pool.handles := by rw [hp₂, hhandles₁]
    split
    · refine .bind <| ends_dispose fun s₃ h₃ _ => .pure ?_
      exact .same (h₃.site.trans hsite₂) (hgrows₂.trans h₃.grows) (by rw [h₃.pool, hhandles₂])
    · next hprepare =>
      have hcalls₂ := Talk.calls_prepare hprepare
      rw [← congrArg Line.env hl₂, hsite₁, hcalls₁] at hcalls₂
      refine .bind <| ends_wrap <| .bind <| .handleAt <| .bind <| .note <| .pure
        ⟨hsite₂, ⟨hgrows₂.now, Nat.le_succ_of_le hgrows₂.nextRaw, hgrows₂.calls⟩, fun h hmem => ?_⟩
      rcases List.mem_append.1 hmem with hmem | hmem
      · exact .inr (.inl ⟨h, hhandles₂ ▸ hmem, rfl⟩)
      · rw [List.mem_singleton.1 hmem]
        refine .inr (.inr (List.IsPrefix.isInfix ⟨s.env.calls, ?_⟩))
        refine Eq.trans ?_ hcalls₂.symm
        rw [Raw.opening, List.append_assoc]
        rfl

theorem upkeep_preparing : Upkeep (Scene.Preparing (S := S)) where
  refl _ := .same rfl (.refl _) rfl
  trans := .trans
  env he := .same rfl he rfl
  pool ht := ⟨rfl, .refl _, fun h hmem => (ht.raw h hmem).imp_right .inl⟩
  ask conn question _ :=
    have h := Scene.Chats.talk (Talk.concerns_ask conn question) _
    .same h.site h.grows (congrArg Pool.handles h.pool)
  tell conn command _ _ :=
    have h := Scene.Chats.talk (Talk.concerns_tell conn command) _
    .same h.site h.grows (congrArg Pool.handles h.pool)
  openNew := openNew_preparing

/-! ## What a turn asks for -/

/-- The login of the acquire whose turn it is. -/
def Phase.login : Phase → Option (String × String)
  | .woken _ a | .seeking a | .judging a _ | .ended (.done a _) | .ended (.sleep a _) => a.login

/-- From one stage of a turn to a later one the target and the login are the same, and all
connections that are asked for are asked for with these. -/
structure Stage.Aims (n : Nat) (g g' : Stage) : Prop where
  login : g'.phase.login = g.phase.login
  target : g'.pool.target = g.pool.target
  connects : ∃ new, g'.env.connects = new ++ g.env.connects ∧ ∀ c ∈ new, c.site = n ∧
    ∃ outcome, c.deed = .connect (g.pool.target.withLogin g.phase.login) outcome

omit [Backend S]

theorem Seek.aims {n : Nat} {raised : Bool} {g g' : Stage} (st : Seek n raised g g') :
    g.Aims n g' := by
  have hsame : ∀ {g g' : Stage}, g'.phase.login = g.phase.login → g'.pool.target = g.pool.target →
      g'.env.connects = g.env.connects → g.Aims n g' := fun hl ht hc =>
    ⟨hl, ht, [], hc, fun _ h => absurd h List.not_mem_nil⟩
  cases st with
  | rouse | stop | shut | takeIdle | interrupted | timeOut | sleep => exact hsame rfl rfl rfl
  | takeOver _ _ _ _ _ _ he => exact hsame rfl rfl he.connects
  | handOut _ he | reject _ he | giveUp _ he => exact hsame rfl rfl he.connects
  | refused _ he | openNew _ he =>
    refine ⟨rfl, rfl, [_], he.connects, fun c hc => ?_⟩
    rw [List.mem_singleton.1 hc]
    exact ⟨rfl, _, rfl⟩

/-- A turn asks for connections to the target of the pool, with the login of the acquire. -/
theorem Seeks.aims {n : Nat} {raised : Bool} {g g' : Stage} (hs : Seeks n raised g g') :
    g.Aims n g' := by
  induction hs with
  | refl => exact ⟨rfl, rfl, [], rfl, fun _ h => absurd h List.not_mem_nil⟩
  | tail _ st ih =>
    obtain ⟨hlogin, htarget, new, hnew, hall⟩ := ih
    obtain ⟨hlogin', htarget', new', hnew', hall'⟩ := st.aims
    refine ⟨hlogin'.trans hlogin, htarget'.trans htarget, new' ++ new, ?_, fun c hc => ?_⟩
    · rw [hnew', hnew, List.append_assoc]
    · rcases List.mem_append.1 hc with hc | hc
      · rw [← htarget, ← hlogin]
        exact hall' c hc
      · exact hall c hc

end ConnPool
