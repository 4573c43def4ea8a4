import ConnPool.Proofs.Pool.Custody
import ConnPool.Proofs.Pool.Effort

/-!
# Which connections are called

Whoever keeps a detached connection relies on the pool to leave it alone. A pool has the numbers of
all its connections in its table of handles for ever, so nothing in its data keeps it from calling
one that is long gone. But all that it calls is a connection in its lists, the candidate in the hand
of an acquire, or the one that it opens.

* `Seek.talks`: this is so in each step of a turn.
* `Yield.talks`: no operation calls any but the connections in the lists, if retired handles are
  left aside.

**Theorem (`Seeks.callsOnly`).** A turn calls no connection but those that the pool had at its start
and those that it opened.
-/

namespace ConnPool

open Pool

/-- All calls between two environments are to connections that satisfy `Q`, which is told the pool
and the connection. -/
def Env.CallsOnly (Q : Nat → Nat → Prop) (e e' : Env) : Prop :=
  ∃ new, e'.calls = new ++ e.calls ∧ ∀ c ∈ new, Q c.site c.conn

namespace Env.CallsOnly

variable {Q R : Nat → Nat → Prop} {n : Nat} {conns : List Nat} {e e₁ e' : Env}

theorem of_calls (h : e'.calls = e.calls) : e.CallsOnly Q e' :=
  ⟨[], h, fun _ hc => absurd hc List.not_mem_nil⟩

theorem of_talksTo (h : e.TalksTo n conns e') (hQ : ∀ conn ∈ conns, Q n conn) :
    e.CallsOnly Q e' := by
  obtain ⟨new, hnew, hcalls⟩ := h
  refine ⟨new, hnew, fun c hc => ?_⟩
  obtain ⟨hsite, hconn⟩ := hcalls c hc
  exact hsite ▸ hQ c.conn hconn

theorem mono (h : e.CallsOnly Q e') (hQR : ∀ n conn, Q n conn → R n conn) : e.CallsOnly R e' := by
  obtain ⟨new, hnew, hcalls⟩ := h
  exact ⟨new, hnew, fun c hc => hQR _ _ (hcalls c hc)⟩

theorem trans (h₁ : e.CallsOnly Q e₁) (h₂ : e₁.CallsOnly Q e') : e.CallsOnly Q e' := by
  obtain ⟨new₁, hnew₁, hcalls₁⟩ := h₁
  obtain ⟨new₂, hnew₂, hcalls₂⟩ := h₂
  refine ⟨new₂ ++ new₁, by rw [hnew₂, hnew₁, List.append_assoc], fun c hc => ?_⟩
  rcases List.mem_append.1 hc with hc | hc
  · exact hcalls₂ c hc
  · exact hcalls₁ c hc

end Env.CallsOnly

/-! ## Turns -/

section

variable {n : Nat} {raised : Bool} {g g' : Stage}

/-- A step of a turn calls the connections that the pool has by then, or the one that it opens. -/
theorem Seek.talks (st : Seek n raised g g') :
    g.env.TalksTo n ((g.pool.attempts + 1) :: g.pool.conns g.phase.hand) g'.env := by
  cases st with
  | rouse | stop | shut | takeIdle | interrupted | timeOut | sleep => exact .of_calls rfl
  | refused _ he =>
    refine Env.TalksTo.mono (.of_opens he) fun c hc => ?_
    exact List.mem_singleton.1 hc ▸ List.mem_cons_self ..
  | @openNew e p a e' _ he =>
    have hcalls : e.TalksTo n [p.attempts + 1] e' := .of_opens he
    refine hcalls.mono fun c hc => ?_
    exact List.mem_singleton.1 hc ▸ List.mem_cons_self ..
  | @takeOver e p a r rest held e' _ _ _ ha _ _ he =>
    have hcalls : e.TalksTo n [p.connOf r] e' := .of_later he
    have hr : r ∈ p.active := ha ▸ List.mem_cons_self ..
    refine hcalls.mono fun c hc => List.mem_cons_of_mem _ ?_
    exact List.mem_singleton.1 hc ▸ List.mem_map_of_mem (mem_live_of_active hr)
  | handOut _ he | reject _ he | giveUp _ he =>
    refine Env.TalksTo.mono (.of_later he) fun c hc => List.mem_cons_of_mem _ ?_
    exact List.mem_singleton.1 hc ▸ List.mem_map_of_mem (List.mem_cons_self ..)

/-- A turn calls the connections that the pool had when it started, and new ones. -/
theorem Seeks.callsOnly (hs : Seeks n raised g g')
    (ho : Owned g.env g.pool (g.pool.live g.phase.hand)) (hnum : Numbered n g.env g.pool.attempts) :
    g.env.CallsOnly
      (fun m conn => m = n ∧ (conn ∈ g.pool.conns g.phase.hand ∨ ¬g.env.Opened n conn)) g'.env := by
  induction hs with
  | refl => exact .of_calls rfl
  | @tail g₁ g' hs st ih =>
    refine ih.trans (.of_talksTo st.talks fun conn hconn => ⟨rfl, ?_⟩)
    rcases List.mem_cons.1 hconn with rfl | hconn
    · -- The number that comes next was not given to any connection before.
      refine .inr fun hopened => ?_
      exact Nat.not_succ_le_self _ ((Seeks.numbered hs hnum).le (hopened.grows (Seeks.grows hs)))
    · exact ((Custody.seeks hs ho hnum).1.only hconn).imp id And.right

end

/-! ## Operations -/

theorem Pool.mem_conns_of_valid {e : Env} {p : Pool} {r : Ref} (ho : Owned e p (p.live none))
    (hv : (p.handle r).valid = true) : p.connOf r ∈ p.conns none :=
  List.mem_map_of_mem ((ho.valid r).1 hv)

/-- An operation calls the connections in the lists of the pool, unless a retired handle is
returned. -/
theorem Yield.talks {n : Nat} {who : Handback} {e e' : Env} {p p' : Pool}
    (y : Yield n who e p e' p') (ho : Owned e p (p.live none))
    (hvalid : ∀ r, who = .release r → (p.handle r).valid = true) :
    e.TalksTo n (p.conns none) e' := by
  have hone : ∀ {r : Ref} {e₁ : Env}, (p.handle r).valid = true → e.Later n [p.connOf r] e₁ →
      e.TalksTo n (p.conns none) e₁ := by
    intro r e₁ hv he
    refine Env.TalksTo.mono (.of_later he) fun c hc => ?_
    exact List.mem_singleton.1 hc ▸ mem_conns_of_valid ho hv
  have hall : ∀ {e₁ : Env}, e.Later n p.pooled e₁ → e.TalksTo n (p.conns none) e₁ := by
    intro e₁ he
    refine Env.TalksTo.mono (.of_later he) fun c hc => ?_
    obtain ⟨r, hr, rfl⟩ := List.mem_map.1 hc
    exact List.mem_map_of_mem (by simpa using hr)
  cases y with
  | letGo | detach => exact .of_calls rfl
  | spurn hv => exact absurd (hv.symm.trans (hvalid _ rfl)) Bool.false_ne_true
  | discard hv he | close hv _ he => exact hone hv he
  | store hv _ _ he =>
    obtain ⟨new, hnew, hcalls⟩ := hone hv he
    exact ⟨new, hnew, hcalls⟩
  | drain he | change _ he | shutDown _ he => exact hall he

end ConnPool
