import ConnPool.Proofs.Pool.Sifting

/-!
# The effort of an acquire

The search of an acquire is a loop with no bound in sight. What bounds it are the bad candidates
that the acquire has met: each way around the loop that tries a candidate either ends it or adds a
bad one, and the settings limit those.

* `Seeks.within`: the acquire meets no more bad candidates than it puts up with, and one more.
* `Seeks.attempts`: it opens a connection for a candidate only.
* `Seeks.bad`: the pool counts each bad candidate.

**Theorem (`Seeks.talks`).** The backend is called about one connection for each candidate.
-/

namespace ConnPool

open Pool

section

variable {n : Nat} {raised : Bool} {g g₁ g' : Stage}

/-! ## Candidates -/

/-- How many candidates the acquire has tried by now. An attempt to open a connection that failed is
one of them. -/
def Phase.tried : Phase → Nat
  | .judging a _ | .ended (.done a (.ok _)) | .ended (.done a (.error (.factory _))) => a.bad + 1
  | .woken _ a | .seeking a | .ended (.done a _) | .ended (.sleep a _) => a.bad

/-- The acquire puts up with `limit` bad candidates, and is told so when it has met one more. -/
def Phase.Within (limit : Nat) : Phase → Prop
  | .ended (.done a (.error (.exhausted k))) => a.bad = limit + 1 ∧ k = limit + 1
  | phase => phase.acquire.bad ≤ limit

theorem Phase.Within.tried_le {limit : Nat} {phase : Phase} (h : phase.Within limit) :
    phase.tried ≤ limit + 1 := by
  rcases phase with ⟨since, a⟩ | a | ⟨a, r⟩ | (⟨a, e | r⟩ | ⟨a, d⟩)
  · exact Nat.le_succ_of_le h
  · exact Nat.le_succ_of_le h
  · exact Nat.succ_le_succ h
  · cases e with
    | exhausted => exact Nat.le_of_eq h.1
    | factory => exact Nat.succ_le_succ h
    | _ => exact Nat.le_succ_of_le h
  · exact Nat.succ_le_succ h
  · exact Nat.le_succ_of_le h

/-- A step that opens a connection has a candidate more. -/
theorem Seek.attempts (st : Seek n raised g g') :
    g'.pool.attempts + g.phase.tried ≤ g.pool.attempts + g'.phase.tried := by
  cases st with
  | @refused e p a | @openNew e p a =>
    change p.attempts + 1 + a.bad ≤ p.attempts + (a.bad + 1)
    omega
  | takeIdle | takeOver => exact Nat.add_le_add_left (Nat.le_succ _) _
  | rouse | stop | shut | handOut | reject | giveUp | interrupted | timeOut | sleep =>
    exact Nat.le_refl _

theorem Seeks.attempts (hs : Seeks n raised g g') :
    g'.pool.attempts + g.phase.tried ≤ g.pool.attempts + g'.phase.tried := by
  induction hs with
  | refl => exact Nat.le_refl _
  | tail _ st ih =>
    have := st.attempts
    omega

theorem Seek.within (st : Seek n raised g g') (h : g.phase.Within g.pool.settings.badLimit) :
    g'.phase.Within g'.pool.settings.badLimit := by
  cases st with
  | rouse | stop | shut | takeIdle | refused | openNew | takeOver | handOut | interrupted | timeOut
  | sleep => exact h
  | reject hb => exact hb
  | giveUp hb =>
    have heq := Nat.le_antisymm h hb
    exact ⟨congrArg (· + 1) heq, congrArg (· + 1) heq⟩

theorem Seeks.within (hs : Seeks n raised g g') (h : g.phase.Within g.pool.settings.badLimit) :
    g'.phase.Within g'.pool.settings.badLimit := by
  induction hs with
  | refl => exact h
  | tail _ st ih => exact st.within ih

/-- Each candidate that the acquire knows to be bad is counted by the pool. -/
theorem Seek.bad (st : Seek n raised g g') :
    g'.pool.tally.bad + g.phase.acquire.bad = g.pool.tally.bad + g'.phase.acquire.bad := by
  cases st with
  | rouse | stop | shut | takeIdle | refused | openNew | takeOver | handOut => rfl
  | @reject e p a | @giveUp e p a =>
    change p.tally.bad + 1 + a.bad = p.tally.bad + (a.bad + 1)
    omega
  | @interrupted e p a | @timeOut e p a | @sleep e p a =>
    change (p.counted a).tally.bad + a.bad = p.tally.bad + a.bad
    unfold counted
    cases a.waitCounted <;> rfl

theorem Seeks.bad (hs : Seeks n raised g g') :
    g'.pool.tally.bad + g.phase.acquire.bad = g.pool.tally.bad + g'.phase.acquire.bad := by
  induction hs with
  | refl => rfl
  | tail _ st ih =>
    have := st.bad
    omega

/-! ## Calls -/

/-- All calls between two environments are to connections `conns` of pool `n`. -/
def Env.TalksTo (n : Nat) (conns : List Nat) (e e' : Env) : Prop :=
  ∃ new, e'.calls = new ++ e.calls ∧ ∀ c ∈ new, c.site = n ∧ c.conn ∈ conns

namespace Env.TalksTo

variable {conns conns' : List Nat} {e e₁ e' : Env}

theorem of_calls (h : e'.calls = e.calls) : e.TalksTo n conns e' :=
  ⟨[], h, fun _ hc => absurd hc List.not_mem_nil⟩

theorem of_later (h : e.Later n conns e') : e.TalksTo n conns e' := by
  obtain ⟨new, hnew, hcalls⟩ := h.calls
  exact ⟨new, hnew, fun c hc => ⟨(hcalls c hc).1, (hcalls c hc).2.1⟩⟩

theorem of_opens {conn : Nat} {target : Target} {outcome : Except Fault Unit}
    (h : e.Opens n conn target outcome e') : e.TalksTo n [conn] e' := by
  obtain ⟨took, notices, hl⟩ := h
  obtain ⟨new, hnew, hcalls⟩ := hl.calls
  refine ⟨new ++ [⟨n, conn, .connect target outcome⟩], ?_, fun c hc => ?_⟩
  · rw [hnew, List.append_assoc]
    rfl
  · rcases List.mem_append.1 hc with hc | hc
    · exact ⟨(hcalls c hc).1, (hcalls c hc).2.1⟩
    · rw [List.mem_singleton.1 hc]
      exact ⟨rfl, List.mem_singleton_self _⟩

theorem mono (h : e.TalksTo n conns e') (hsub : ∀ c ∈ conns, c ∈ conns') :
    e.TalksTo n conns' e' := by
  obtain ⟨new, hnew, hcalls⟩ := h
  exact ⟨new, hnew, fun c hc => ⟨(hcalls c hc).1, hsub _ (hcalls c hc).2⟩⟩

theorem trans (h₁ : e.TalksTo n conns e₁) (h₂ : e₁.TalksTo n conns e') : e.TalksTo n conns e' := by
  obtain ⟨new₁, hnew₁, hcalls₁⟩ := h₁
  obtain ⟨new₂, hnew₂, hcalls₂⟩ := h₂
  refine ⟨new₂ ++ new₁, by rw [hnew₂, hnew₁, List.append_assoc], fun c hc => ?_⟩
  rcases List.mem_append.1 hc with hc | hc
  · exact hcalls₂ c hc
  · exact hcalls₁ c hc

end Env.TalksTo

/-- Between two stages of a turn the backend is called about `conns` only, one connection for each
candidate that was tried, and that of the candidate in hand is among them. -/
structure Stage.Talks (n : Nat) (conns : List Nat) (g g' : Stage) : Prop where
  length : conns.length + g.phase.tried ≤ g'.phase.tried
  calls : g.env.TalksTo n conns g'.env
  hand : ∀ a r, g'.phase = .judging a r → g'.pool.connOf r ∈ conns

namespace Stage.Talks

variable {conns : List Nat}

/-- A step that tries no new candidate. -/
theorem same (h : g.Talks n conns g₁) (htried : g'.phase.tried = g₁.phase.tried)
    (hcalls : g₁.env.TalksTo n conns g'.env) (hhand : g'.phase.hand = none) :
    g.Talks n conns g' where
  length := htried ▸ h.length
  calls := h.calls.trans hcalls
  hand a r hphase := by
    rw [hphase] at hhand
    exact nomatch hhand

/-- A step that tries a new candidate. -/
theorem cons {conn : Nat} (h : g.Talks n conns g₁) (htried : g'.phase.tried = g₁.phase.tried + 1)
    (hcalls : g₁.env.TalksTo n [conn] g'.env)
    (hhand : ∀ a r, g'.phase = .judging a r → g'.pool.connOf r = conn) :
    g.Talks n (conn :: conns) g' where
  length := by
    have := h.length
    rw [htried, List.length_cons]
    omega
  calls := by
    have hold := h.calls.mono fun c hc => List.mem_cons_of_mem conn hc
    exact hold.trans (hcalls.mono fun c hc => List.mem_cons.2 (.inl (List.mem_singleton.1 hc)))
  hand a r hphase := hhand a r hphase ▸ List.mem_cons_self ..

theorem next (h : g.Talks n conns g₁) (st : Seek n raised g₁ g') :
    ∃ conns', g.Talks n conns' g' := by
  cases st with
  | rouse | stop | shut | interrupted | timeOut | sleep =>
    exact ⟨conns, h.same rfl (.of_calls rfl) rfl⟩
  | @takeIdle e p a r rest =>
    refine ⟨p.connOf r :: conns, h.cons rfl (.of_calls rfl) fun b s hphase => ?_⟩
    cases hphase
    rfl
  | @refused e p a e' outcome fault hroom he =>
    exact ⟨_, h.cons rfl (.of_opens he) nofun⟩
  | @openNew e p a e' hroom he =>
    have hcalls : e.TalksTo n [p.attempts + 1] e' := .of_opens he
    refine ⟨_, h.cons rfl hcalls fun b s hphase => ?_⟩
    cases hphase
    exact congrArg (·.raw.conn) (handle_add_self _ _)
  | @takeOver e p a r rest held e' ho hi hf ha hh ht he =>
    have hcalls : e.TalksTo n [p.connOf r] e' := .of_later he
    refine ⟨_, h.cons rfl hcalls fun b s hphase => ?_⟩
    cases hphase
    exact congrArg (·.raw.conn) (handle_passOn_new _ r _ _)
  | @handOut e p a r e' _ he | @reject e p a r e' _ he | @giveUp e p a r e' _ he =>
    have hcalls : e.TalksTo n conns e' := by
      refine Env.TalksTo.mono (.of_later he) fun c hc => ?_
      rw [List.mem_singleton.1 hc]
      exact h.hand a r rfl
    exact ⟨conns, h.same rfl hcalls rfl⟩

end Stage.Talks

theorem Seeks.talks (hs : Seeks n raised g g') (hstart : g.phase.Starts) :
    ∃ conns, g.Talks n conns g' := by
  induction hs with
  | refl =>
    refine ⟨[], Nat.le_of_eq (Nat.zero_add _), .of_calls rfl, fun a r hphase => ?_⟩
    rw [hphase] at hstart
    exact hstart.elim
  | tail _ st ih =>
    obtain ⟨conns, h⟩ := ih
    exact h.next st

end

end ConnPool
