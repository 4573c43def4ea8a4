import ConnPool.Proofs.Pool.Seek

/-!
# Upkeep

`Seek` and `Yield` tell what becomes of a pool, whatever its backend answers. What becomes of the
backend is told here. The acts of a pool are made up of a few moves: a question to a connection; an
order to close it, to roll back or to run the ping query; the opening of a new connection; and
changes of the pool that make no connection up. A relation between scenes that each of these moves
keeps (`Upkeep`) is kept by all acts of the pool.

**Theorem (`Upkeep.search_serves`).** A search that ends with a handle has found its connection fit
at the very end, and only handed it out since.
-/

namespace ConnPool

open Pool

/-- The handles of the later pool are around connections that the earlier one knew, and none was
asked for in between. -/
structure Pool.Tidy (p p' : Pool) : Prop where
  attempts : p'.attempts = p.attempts
  raw : ∀ h ∈ p'.handles, h.raw = default ∨ ∃ h₀ ∈ p.handles, h₀.raw = h.raw

namespace Pool.Tidy

theorem of_handles {p p' : Pool} (ha : p'.attempts = p.attempts) (hh : p'.handles = p.handles) :
    p.Tidy p' :=
  ⟨ha, fun h hmem => .inr ⟨h, hh ▸ hmem, rfl⟩⟩

theorem withHandle (p : Pool) (r : Ref) {f : Handle → Handle} (hf : ∀ h, (f h).raw = h.raw) :
    p.Tidy (p.withHandle r f) := by
  refine ⟨rfl, fun h hmem => .inr ?_⟩
  obtain ⟨i, hi, rfl⟩ := List.mem_iff_getElem.1 hmem
  have hlt : i < p.handles.length := by simpa [Pool.withHandle] using hi
  refine ⟨p.handles[i], List.getElem_mem hlt, ?_⟩
  simp only [Pool.withHandle, List.getElem_modify]
  split
  · exact (hf _).symm
  · rfl

/-- A handle that is put around the connection of another one. -/
theorem addFrom (p : Pool) (r : Ref) {h : Handle} (hraw : h.raw = (p.handle r).raw) :
    p.Tidy { p with handles := p.handles ++ [h] } := by
  refine ⟨rfl, fun x hx => ?_⟩
  rcases List.mem_append.1 hx with hx | hx
  · exact .inr ⟨x, hx, rfl⟩
  · rw [List.mem_singleton.1 hx, hraw]
    rcases Nat.lt_or_ge r p.handles.length with hlt | hge
    · refine .inr ⟨p.handles[r], List.getElem_mem hlt, ?_⟩
      rw [handle_eq_getElem hlt]
    · exact .inl (by rw [handle_of_length_le hge]; rfl)

end Pool.Tidy

/-! ## How talks run -/

theorem Talk.bind_run {S α β : Type} (t : Talk S α) (f : α → Talk S β) (l : Line S) :
    (t >>= f) l = f (t l).1 (t l).2 := rfl

/-- A talk that stops at the first fault goes on only after a call that succeeded. -/
theorem Talk.attempt_run {S α β : Type} (a : Attempt S α) (f : α → Attempt S β) (l : Line S) :
    (a >>= f).run l =
      match (a.run l).1 with
      | .ok x => (f x).run (a.run l).2
      | .error fault => (.error fault, (a.run l).2) := by
  change ExceptT.bindCont f (a.run l).1 (a.run l).2 = _
  cases (a.run l).1 <;> rfl

/-- The orders that set a new connection to the defaults of its target. -/
def Target.defaults (t : Target) : List Command :=
  (t.autoCommit.map .setAutoCommit).toList ++ (t.isolation.map .setIsolation).toList ++
    (t.networkTimeout.map .setNetworkTimeout).toList

/-- To prepare a connection is to give it one such order after the other. -/
theorem Talk.prepare_eq {S : Type} [Backend S] (conn : Nat) (target : Target) :
    (Talk.prepare conn target : Attempt S Unit) = target.defaults.forM (Talk.tell conn) := by
  unfold Talk.prepare Target.defaults
  cases target.autoCommit <;> cases target.isolation <;> cases target.networkTimeout <;> simp

section

variable {S : Type} [Backend S] {p : Probe} {conn : Nat} {l : Line S}

/-- Where nothing is found wrong with a ping, all that was done is the ping. -/
theorem Probe.pingOrClose_none (h : (p.pingOrClose conn l).1 = none) :
    ∃ e, ((p.ping conn : Attempt S Unit).run { l with env := e }).1 = .ok () ∧
      (p.pingOrClose conn l).2 = ((p.ping conn : Attempt S Unit).run { l with env := e }).2 := by
  refine ⟨l.env.note (.pinging p.query), ?_⟩
  have hnote : (Talk.note (.pinging p.query) l).2 =
      { l with env := l.env.note (.pinging p.query) } := rfl
  unfold Probe.pingOrClose at h ⊢
  rw [Talk.bind_run, Talk.bind_run, hnote] at h ⊢
  revert h
  cases ((p.ping conn : Attempt S Unit).run { l with env := l.env.note (.pinging p.query) }).1 with
  | ok _ => exact fun _ => ⟨rfl, rfl⟩
  | error fault =>
    intro h
    dsimp only at h
    rw [Talk.bind_run, Talk.bind_run] at h
    revert h
    cases ((Talk.tell conn .close : Attempt S Unit).run _).1 <;> exact nofun

/-- A connection that is found healthy says that it is open. All that was done besides is a ping
that went well, if there was one. -/
theorem Probe.examine_healthy {unused : Span} (h : (p.examine conn unused l).1.healthy = true) :
    ((Talk.ask conn .isClosed : Attempt S Bool).run l).1 = .ok false ∧
      ((p.examine conn unused l).1.pinged = false ∧
          (p.examine conn unused l).2 = ((Talk.ask conn .isClosed : Attempt S Bool).run l).2 ∨
        (p.pingOrClose conn ((Talk.ask conn .isClosed : Attempt S Bool).run l).2).1 = none ∧
          (p.examine conn unused l).2 =
            (p.pingOrClose conn ((Talk.ask conn .isClosed : Attempt S Bool).run l).2).2) := by
  have hnow : (Talk.now l).2 = l := rfl
  unfold Probe.examine at h ⊢
  rw [Talk.bind_run, Talk.bind_run, hnow] at h ⊢
  revert h
  rcases ((Talk.ask conn .isClosed : Attempt S Bool).run l).1 with fault | _ | _
  · exact fun h => absurd h Bool.false_ne_true
  · intro h
    refine ⟨rfl, ?_⟩
    dsimp only at h ⊢
    by_cases hp : p.pings unused = true
    · rw [if_pos hp] at h ⊢
      rw [Talk.bind_run] at h ⊢
      revert h
      cases (p.pingOrClose conn ((Talk.ask conn .isClosed : Attempt S Bool).run l).2).1 with
      | some error => exact fun h => absurd h Bool.false_ne_true
      | none => exact fun _ => .inr ⟨rfl, rfl⟩
    · rw [if_neg hp]
      exact .inl ⟨rfl, rfl⟩
  · exact fun h => absurd h Bool.false_ne_true

end

namespace Pool

theorem talk_run {S α : Type} (t : Talk S α) (s : Scene S) :
    talk t s = ((t s.toLine).1, { s with toLine := (t s.toLine).2 }) := rfl

/-- A talk changes nothing but the backend and what surrounds it. -/
theorem ends_talk {S α : Type} {t : Talk S α} {P : α → Scene S → Prop} {s : Scene S}
    (h : ∀ s₁, s₁.pool = s.pool → s₁.toLine = (t s.toLine).2 → P (t s.toLine).1 s₁) :
    Ends (talk t) s P := h _ rfl rfl

variable {S : Type} [Backend S] {r : Ref} {s : Scene S}

/-- A connection that is found sound passed the probe, and that is all that was done. -/
theorem isSound_true (h : (isSound r s).1 = true) :
    ((Probe.ofSettings s.pool.settings).examine (s.pool.connOf r)
        ((s.pool.handle r).data.unusedFor s.env.now) s.toLine).1.healthy = true ∧
      (isSound r s).2 = { s with toLine :=
        ((Probe.ofSettings s.pool.settings).examine (s.pool.connOf r)
          ((s.pool.handle r).data.unusedFor s.env.now) s.toLine).2 } := by
  unfold isSound at h ⊢
  rw [bind_run, handleAt_run] at h ⊢
  dsimp only at h ⊢
  split at h
  · next hv =>
    rw [if_pos hv]
    rw [bind_run, look_run, bind_run, now_run, bind_run, talk_run] at h ⊢
    dsimp only at h ⊢
    generalize (Probe.ofSettings s.pool.settings).examine (s.pool.handle r).raw.conn
      ((s.pool.handle r).data.unusedFor s.env.now) s.toLine = res at h ⊢
    cases hhealthy : res.1.healthy with
    | true => exact ⟨rfl, rfl⟩
    | false =>
      rw [hhealthy] at h
      exact absurd h Bool.false_ne_true
  · exact nomatch h

/-- A connection that is found cleared was rolled back without a fault where that was needed, and
that is all that was done. -/
theorem isCleared_true (h : (isCleared r s).1 = true) :
    ((Talk.clearPending (s.pool.connOf r) : Attempt S Unit).run s.toLine).1 = .ok () ∧
      (isCleared r s).2 = { s with toLine :=
        ((Talk.clearPending (s.pool.connOf r) : Attempt S Unit).run s.toLine).2 } := by
  unfold isCleared at h ⊢
  rw [bind_run, handleAt_run, bind_run, talk_run] at h ⊢
  dsimp only at h ⊢
  generalize (Talk.clearPending (s.pool.handle r).raw.conn : Attempt S Unit).run s.toLine = res
    at h ⊢
  cases hout : res.1 with
  | ok _ => exact ⟨rfl, rfl⟩
  | error fault =>
    rw [hout] at h
    exact absurd h Bool.false_ne_true

end Pool

/-! ## Moves -/

/-- Whether an order is one that a pool gives to the connections that it has. -/
def Command.isCare : Command → Bool
  | .close | .rollback | .execute _ => true
  | _ => false

variable {S : Type} [Backend S]

/-- A relation between two scenes of a pool that each move of the pool keeps. -/
structure Upkeep (R : Scene S → Scene S → Prop) : Prop where
  refl : ∀ s, R s s
  trans : ∀ {s s₁ s₂}, R s s₁ → R s₁ s₂ → R s s₂
  env : ∀ {s : Scene S} {e}, s.env.Grows e → R s { s with env := e }
  pool : ∀ {s : Scene S} {p}, s.pool.Tidy p → R s { s with pool := p }
  ask : ∀ conn question s, R s (talk (Talk.ask conn question).run s).2
  tell : ∀ conn command, command.isCare = true → ∀ s, R s (talk (Talk.tell conn command).run s).2
  openNew : ∀ login s, R s (openNew login s).2

/-- The act keeps a relation between scenes. -/
def Keeps {α : Type} (R : Scene S → Scene S → Prop) (x : Act S α) : Prop := ∀ s, R s (x s).2

namespace Upkeep

variable {R : Scene S → Scene S → Prop} {α β : Type}

/-! ## Composition -/

theorem pure (hR : Upkeep R) (a : α) : Keeps R (Pure.pure a) := hR.refl

theorem bind (hR : Upkeep R) {x : Act S α} {f : α → Act S β} (hx : Keeps R x)
    (hf : ∀ a, Keeps R (f a)) : Keeps R (x >>= f) :=
  fun s => hR.trans (hx s) (hf _ _)

/-- An act that begins with a look at the scene. -/
theorem peek (hR : Upkeep R) {x : Act S α} {f : α → Act S β} (hx : ∀ s, (x s).2 = s)
    (hf : ∀ a, Keeps R (f a)) : Keeps R (x >>= f) :=
  hR.bind (fun s => by rw [hx s]; exact hR.refl s) hf

theorem look (hR : Upkeep R) {f : Pool → Act S β} (hf : ∀ p, Keeps R (f p)) :
    Keeps R (Pool.look >>= f) := hR.peek (fun _ => rfl) hf

theorem now (hR : Upkeep R) {f : Instant → Act S β} (hf : ∀ t, Keeps R (f t)) :
    Keeps R (Pool.now >>= f) := hR.peek (fun _ => rfl) hf

theorem handleAt (hR : Upkeep R) {r : Ref} {f : Handle → Act S β} (hf : ∀ h, Keeps R (f h)) :
    Keeps R (Pool.handleAt r >>= f) := hR.peek (fun _ => rfl) hf

theorem update (hR : Upkeep R) {f : Pool → Pool} (hf : ∀ p : Pool, p.Tidy (f p)) :
    Keeps R (Pool.update f : Act S Unit) := fun s => hR.pool (hf s.pool)

theorem count (hR : Upkeep R) (f : Tally → Tally) : Keeps R (Pool.count f : Act S Unit) :=
  hR.update fun _ => .of_handles rfl rfl

theorem retire (hR : Upkeep R) (r : Ref) (state : HandleState) :
    Keeps R (Pool.retire r state : Act S Unit) :=
  hR.update fun p => .withHandle p r fun _ => rfl

theorem note (hR : Upkeep R) (n : Notice) : Keeps R (Pool.note n : Act S Unit) :=
  fun s => hR.env ((Env.Grows.refl s.env).note n)

theorem renew (hR : Upkeep R) (r : Ref) : Keeps R (Pool.renew r : Act S Ref) := fun s =>
  hR.trans (hR.env (e := s.env.renewed) ⟨Nat.le_refl _, Nat.le_refl _, List.suffix_refl _⟩)
    (hR.pool (.addFrom s.pool r rfl))

/-! ## Talks -/

/-- The talk keeps a relation between scenes. -/
def Speaks (R : Scene S → Scene S → Prop) (t : Talk S α) : Prop := Keeps R (talk t)

theorem speaks_bind (hR : Upkeep R) {t : Talk S α} {f : α → Talk S β} (ht : Speaks R t)
    (hf : ∀ a, Speaks R (f a)) : Speaks R (t >>= f) :=
  fun s => hR.trans (ht s) (hf _ _)

theorem speaks_attempt (hR : Upkeep R) {a : Attempt S α} {f : α → Attempt S β}
    (ha : Speaks R a.run) (hf : ∀ x, Speaks R (f x).run) : Speaks R (a >>= f).run := by
  refine hR.speaks_bind (f := ExceptT.bindCont f) ha fun outcome => ?_
  cases outcome with
  | ok x => exact hf x
  | error fault => exact hR.refl

theorem speaks_pure (hR : Upkeep R) (a : α) : Speaks R (Pure.pure a : Talk S α) := hR.refl

theorem speaks_note (hR : Upkeep R) (n : Notice) : Speaks R (Talk.note n : Talk S Unit) := hR.note n

theorem speaks_clearPending (hR : Upkeep R) (conn : Nat) :
    Speaks R (Talk.clearPending conn : Attempt S Unit).run := by
  refine hR.speaks_attempt (hR.ask conn .autoCommit) fun on => ?_
  cases on with
  | true => exact hR.refl
  | false => exact hR.tell conn .rollback rfl

theorem speaks_dispose (hR : Upkeep R) (conn : Nat) :
    Speaks R (Talk.dispose conn : Talk S Unit) := by
  refine hR.speaks_bind (hR.tell conn .close rfl) fun outcome => ?_
  cases outcome with
  | ok _ => exact hR.refl
  | error fault => exact hR.speaks_note _

theorem speaks_pingOrClose (hR : Upkeep R) (p : Probe) (conn : Nat) :
    Speaks R (p.pingOrClose conn : Talk S (Option String)) := by
  have hping : Speaks R (p.ping conn : Attempt S Unit).run :=
    hR.speaks_attempt (hR.tell conn (.execute p.query) rfl) fun _ => hR.speaks_clearPending conn
  refine hR.speaks_bind (hR.speaks_note _) fun _ => hR.speaks_bind hping fun outcome => ?_
  cases outcome with
  | ok _ => exact hR.refl
  | error fault =>
    refine hR.speaks_bind (hR.speaks_note _) fun _ =>
      hR.speaks_bind (hR.tell conn .close rfl) fun second => ?_
    cases second with
    | ok _ => exact hR.refl
    | error _ => exact hR.speaks_bind (hR.speaks_note _) fun _ => hR.speaks_pure _

theorem speaks_examine (hR : Upkeep R) (p : Probe) (conn : Nat) (unused : Span) :
    Speaks R (p.examine conn unused : Talk S Verdict) := by
  have report (verdict : Span → Verdict) (started : Instant) :
      Speaks R (do return verdict ((← Talk.now) - started) : Talk S Verdict) := hR.refl
  refine hR.speaks_bind (t := Talk.now) hR.refl fun started =>
    hR.speaks_bind (hR.ask conn .isClosed) fun outcome => ?_
  rcases outcome with fault | _ | _
  · exact report (.failed · false fault.message) started
  · dsimp only
    split
    · refine hR.speaks_bind (hR.speaks_pingOrClose p conn) fun error => ?_
      cases error with
      | some error => exact report (.failed · true error) started
      | none => exact report (.passed · true) started
    · exact report (.passed · false) started
  · exact report (.failed · false "connection is closed") started

/-! ## Care of connections -/

theorem isSound (hR : Upkeep R) (r : Ref) : Keeps R (Pool.isSound r : Act S Bool) := by
  refine hR.handleAt fun h => ?_
  split
  · refine hR.look fun p => hR.now fun t => hR.bind (hR.speaks_examine _ _ _) fun verdict => ?_
    cases verdict.healthy with
    | true => exact hR.pure _
    | false => exact hR.bind (hR.note _) fun _ => hR.pure _
  · exact hR.pure _

theorem isCleared (hR : Upkeep R) (r : Ref) : Keeps R (Pool.isCleared r : Act S Bool) := by
  refine hR.handleAt fun h => hR.bind (hR.speaks_clearPending _) fun outcome => ?_
  cases outcome with
  | ok _ => exact hR.pure _
  | error fault => exact hR.bind (hR.note _) fun _ => hR.pure _

theorem scrap (hR : Upkeep R) (r : Ref) : Keeps R (Pool.scrap r : Act S Unit) := by
  refine hR.handleAt fun h => hR.bind (hR.retire r _) fun _ =>
    hR.bind (hR.ask _ .isClosed) fun outcome => ?_
  rcases outcome with fault | _ | _
  · exact hR.speaks_dispose _
  · exact hR.speaks_dispose _
  · exact hR.pure _

theorem giveUp (hR : Upkeep R) (r : Ref) : Keeps R (Pool.giveUp r : Act S Unit) :=
  hR.handleAt fun _ => hR.bind (hR.retire r _) fun _ => hR.bind (hR.isCleared r) fun _ =>
    hR.speaks_dispose _

theorem forM_giveUp (hR : Upkeep R) (rs : List Ref) :
    Keeps R (rs.forM Pool.giveUp : Act S PUnit) := by
  induction rs with
  | nil => exact hR.refl
  | cons r rs ih => exact hR.bind (hR.giveUp r) fun _ => ih

theorem drain (hR : Upkeep R) : Keeps R (Pool.drain : Act S Unit) :=
  hR.look fun _ => hR.bind (hR.update fun _ => .of_handles rfl rfl) fun _ =>
    hR.bind (hR.forM_giveUp _) fun _ => hR.note _

/-! ## Returns and reconfiguration -/

theorem store (hR : Upkeep R) (r : Ref) : Keeps R (Pool.store r : Act S Unit) :=
  hR.bind (hR.renew r) fun _ => hR.bind (hR.update fun p => .withHandle p _ fun _ => rfl) fun _ =>
    hR.bind (hR.retire r _) fun _ => hR.handleAt fun _ => hR.bind (hR.note _) fun _ =>
      hR.update fun _ => .of_handles rfl rfl

theorem closeReturned (hR : Upkeep R) (r : Ref) : Keeps R (Pool.closeReturned r : Act S Unit) :=
  hR.handleAt fun _ => hR.bind (hR.retire r _) fun _ => hR.bind (hR.speaks_dispose _) fun _ =>
    hR.note _

theorem release (hR : Upkeep R) (r : Ref) : Keeps R (Pool.release r : Act S Unit) := by
  refine hR.bind (hR.update fun _ => .of_handles rfl rfl) fun _ =>
    hR.bind (hR.isSound r) fun sound => ?_
  cases sound with
  | true =>
    refine hR.now fun t => hR.handleAt fun h => hR.bind (hR.count _) fun _ =>
      hR.bind (hR.isCleared r) fun clean => hR.look fun p => ?_
    split
    · exact hR.store r
    · exact hR.closeReturned r
  | false =>
    refine hR.handleAt fun h => hR.bind (hR.note _) fun _ => hR.bind (hR.count _) fun _ => ?_
    split
    · exact hR.scrap r
    · exact hR.pure _

theorem detach (hR : Upkeep R) (r : Ref) : Keeps R (Pool.detach r : Act S Bool) := by
  refine hR.look fun p => ?_
  extract_lets owned
  refine hR.bind (hR.update fun _ => .of_handles rfl rfl) fun _ => ?_
  split
  · exact hR.bind (hR.retire r _) fun _ => hR.bind (hR.note _) fun _ => hR.pure _
  · exact hR.pure _

theorem change (hR : Upkeep R) (c : Change) :
    Keeps R (Pool.change c : Act S (Except PoolError Unit)) := by
  refine hR.look fun p => ?_
  split
  · exact hR.pure _
  · exact hR.bind (hR.update fun _ => .of_handles rfl rfl) fun _ => hR.bind hR.drain fun _ =>
      hR.pure _

theorem shutDown (hR : Upkeep R) : Keeps R (Pool.shutDown : Act S Bool) := by
  refine hR.look fun p => ?_
  split
  · exact hR.pure _
  · exact hR.bind (hR.update fun _ => .of_handles rfl rfl) fun _ => hR.bind hR.drain fun _ =>
      hR.bind (hR.note _) fun _ => hR.pure _

/-! ## Acquires -/

theorem takeOver (hR : Upkeep R) : Keeps R (Pool.takeOver : Act S (Option Ref)) := by
  refine hR.look fun p => ?_
  split
  · exact hR.pure _
  · refine hR.now fun t => ?_
    extract_lets held
    split
    · exact hR.pure _
    · refine hR.bind (hR.update fun _ => .of_handles rfl rfl) fun _ => hR.bind (hR.count _) fun _ =>
        hR.bind (hR.retire _ _) fun _ => hR.bind (hR.speaks_clearPending _) fun outcome => ?_
      have hrest : ∀ (r : Ref) (n : Notice), Keeps R (do
          let fresh ← Pool.renew r
          Pool.note n
          return some fresh : Act S (Option Ref)) := fun r n =>
        hR.bind (hR.renew r) fun _ => hR.bind (hR.note n) fun _ => hR.pure _
      cases outcome with
      | ok _ => exact hrest _ _
      | error fault => exact hR.bind (hR.note _) fun _ => hrest _ _

theorem nextCandidate (hR : Upkeep R) (login : Option (String × String)) :
    Keeps R (Pool.nextCandidate login : Act S (Except PoolError (Option Ref))) := by
  refine hR.look fun p => ?_
  split
  · exact hR.bind (hR.update fun _ => .of_handles rfl rfl) fun _ => hR.bind (hR.note _) fun _ =>
      hR.pure _
  · split
    · exact hR.bind (hR.openNew login) fun _ => hR.pure _
    · exact hR.bind hR.takeOver fun _ => hR.pure _

theorem isFit (hR : Upkeep R) (r : Ref) : Keeps R (Pool.isFit r : Act S Bool) := by
  refine hR.bind (hR.isSound r) fun sound => ?_
  cases sound with
  | true => exact hR.isCleared r
  | false => exact hR.pure _

theorem handOut (hR : Upkeep R) (a : Acquire) (r : Ref) :
    Keeps R (Pool.handOut a r : Act S Unit) := by
  refine hR.now fun t => hR.bind (hR.update fun p => ?_) fun _ => hR.count _
  refine ⟨rfl, (Tidy.withHandle p r (f := fun h =>
    { h with data := h.data.checkOut (p.target.withLogin a.login).endpoint t }) fun _ => rfl).raw⟩

theorem reject (hR : Upkeep R) (r : Ref) : Keeps R (Pool.reject r : Act S Unit) :=
  hR.handleAt fun _ => hR.bind (hR.note _) fun _ => hR.bind (hR.count _) fun _ => hR.scrap r

end Upkeep

/-! ## Searches -/

/-- A turn that began in scene `s` and ended in `s'` keeps a relation between scenes. If it ends
with a handle, then the connection was found fit at the end, and was only handed out since. -/
structure Serves (R : Scene S → Scene S → Prop) (s : Scene S) (turn : Turn) (s' : Scene S) :
    Prop where
  keeps : R s s'
  fit : ∀ a r, turn = .done a (.ok r) → ∃ s₁, R s s₁ ∧ (Pool.isFit r s₁).1 = true ∧
    s' = (Pool.handOut a r (Pool.isFit r s₁).2).2

namespace Serves

variable {R : Scene S → Scene S → Prop} {s s₁ s₂ : Scene S}

/-- A turn that has come to a scene goes on to its end. -/
theorem after {turn : Turn} (hs : Serves R s₁ turn s₂) (hR : Upkeep R) (h : R s s₁) :
    Serves R s turn s₂ where
  keeps := hR.trans h hs.keeps
  fit a r heq := by
    obtain ⟨s₃, h₃, hfit⟩ := hs.fit a r heq
    exact ⟨s₃, hR.trans h h₃, hfit⟩

/-- A turn that fails. -/
theorem fails (h : R s s₁) (a : Acquire) (e : PoolError) : Serves R s (.done a (.error e)) s₁ :=
  ⟨h, nofun⟩

end Serves

namespace Upkeep

variable {R : Scene S → Scene S → Prop}

theorem wait_serves (hR : Upkeep R) (raised : Bool) (a : Acquire) (s : Scene S) :
    Ends (Pool.wait raised a) s (Serves R s) := by
  unfold Pool.wait
  extract_lets a' rest
  have hrest : ∀ s₁, R s s₁ → Ends (rest ()) s₁ (Serves R s) := by
    intro s₁ h
    have hnote : ∀ n, R s { s₁ with env := s₁.env.note n } := fun n => hR.trans h (hR.note n s₁)
    unfold rest
    split
    · exact .bind <| .note <| .pure (.fails (hnote _) a' _)
    · refine .bind <| .look <| .bind <| .now <| .bind <| ends_oldestCheckout ?_
      split
      · exact .bind <| .note <| .pure (.fails (hnote _) a' _)
      · exact .bind <| .note <| .pure ⟨hnote _, nofun⟩
  split
  · exact hrest s (hR.refl s)
  · exact .bind <| .count <| hrest _ (hR.count (fun t => { t with waits := t.waits + 1 }) s)

/-- What is left to show of a search is how it goes on after a rejected candidate. -/
theorem search_serves_of (hR : Upkeep R) {raised : Bool} {tolerated : Nat} {a : Acquire}
    {s : Scene S}
    (hon : ∀ s₁ : Scene S, R s s₁ →
      Ends (searchOn raised tolerated { a with bad := a.bad + 1 }) s₁ (Serves R s)) :
    Ends (Pool.search raised tolerated a) s (Serves R s) := by
  unfold Pool.search
  refine .bind <| .look ?_
  split
  · exact .pure (.fails (hR.refl s) a _)
  have hnext : Ends (Pool.nextCandidate a.login) s fun _ s₁ => R s s₁ := hR.nextCandidate a.login s
  refine .bind <| hnext.mono fun found s₁ h₁ => ?_
  rcases found with e | _ | r
  · exact .pure (.fails h₁ a e)
  · exact (hR.wait_serves raised a s₁).mono fun turn s₂ h₂ => h₂.after hR h₁
  · refine .bind ?_
    have h₂ : R s (Pool.isFit r s₁).2 := hR.trans h₁ (hR.isFit r s₁)
    unfold Ends
    cases hfit : (Pool.isFit r s₁).1 with
    | true =>
      refine ⟨hR.trans h₂ (hR.handOut a r _), fun b t heq => ?_⟩
      cases heq
      exact ⟨s₁, h₁, hfit, rfl⟩
    | false => exact hon _ (hR.trans h₂ (hR.reject r _))

theorem search_serves (hR : Upkeep R) (raised : Bool) (tolerated : Nat) (a : Acquire)
    (s : Scene S) : Ends (Pool.search raised tolerated a) s (Serves R s) := by
  induction tolerated generalizing a s with
  | zero =>
    exact hR.search_serves_of fun s₁ h =>
      .bind <| .note <| .pure (.fails (hR.trans h (hR.note _ s₁)) _ _)
  | succ tolerated ih =>
    refine hR.search_serves_of fun s₁ h => ?_
    exact (ih { a with bad := a.bad + 1 } s₁).mono fun turn s₂ h₂ => h₂.after hR h

theorem begin_serves (hR : Upkeep R) (raised : Bool) (login : Option (String × String))
    (s : Scene S) : Ends (Pool.begin raised login) s (Serves R s) :=
  .bind <| .now <| .bind <| .look <| hR.search_serves raised _ _ s

theorem resume_serves (hR : Upkeep R) (raised : Bool) (since : Instant) (a : Acquire)
    (s : Scene S) : Ends (Pool.resume raised since a) s (Serves R s) := by
  have hroused : R s { s with pool := s.pool.roused since s.env.now } :=
    hR.pool (.of_handles rfl rfl)
  refine .bind <| .now <| .bind <| .count ?_
  split
  · exact .bind <| .note <| .pure (.fails (hR.trans hroused (hR.note .interrupted _)) a _)
  · exact .bind <| .look <| (hR.search_serves raised _ a _).mono fun turn s₁ h =>
      h.after hR hroused

end Upkeep

/-! ## The journal -/

theorem Pool.openNew_opens (login : Option (String × String)) (s : Scene S) :
    Ends (openNew login) s fun _ s' => ∃ outcome e,
      s.env.Opens s.site (s.pool.attempts + 1) (s.pool.target.withLogin login) outcome e ∧
        e.Grows s'.env := by
  refine .bind <| .look <| .bind <| .update <| .bind <|
    ends_connect fun outcome s₁ hpool hsite hopens => ?_
  cases outcome with
  | error fault => exact .pure ⟨_, _, hopens, .refl _⟩
  | ok _ =>
    refine .bind <| .talk (Talk.concerns_prepare _ _) fun outcome s₂ h₂ => ?_
    cases outcome with
    | error fault =>
      refine .bind <| ends_dispose fun s₃ h₃ _ => ?_
      exact .pure ⟨_, _, hopens, h₂.grows.trans h₃.grows⟩
    | ok _ =>
      refine .bind <| ends_wrap <| .bind <| .handleAt <| .bind <| .note <| .pure ?_
      refine ⟨_, _, hopens, h₂.grows.trans ?_⟩
      exact ⟨Nat.le_refl _, Nat.le_succ _, List.suffix_refl _⟩

/-- Whatever the pool does, time does not run backwards and no call is forgotten. -/
theorem upkeep_grows : Upkeep fun s s' : Scene S => s.env.Grows s'.env where
  refl s := .refl s.env
  trans := .trans
  env he := he
  pool _ := .refl _
  ask conn question s := (Scene.Chats.talk (Talk.concerns_ask conn question) s).grows
  tell conn command _ s := (Scene.Chats.talk (Talk.concerns_tell conn command) s).grows
  openNew login s := by
    have hends : Ends (openNew login) s fun _ s' => s.env.Grows s'.env :=
      (Pool.openNew_opens login s).mono fun _ _ ⟨_, _, hopens, hgrows⟩ => hopens.grows.trans hgrows
    exact hends

end ConnPool
