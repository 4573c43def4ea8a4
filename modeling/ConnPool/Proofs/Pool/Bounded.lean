import ConnPool.Proofs.Pool.Owned

/-!
# Bounds

An idle connection is handed out without a look at `maxActive`. The bound on the checkouts holds all
the same, because a stronger one does: `Bounded` counts the connections that are checked out, idle
or in the hand of an acquire together. Only opening a connection adds to their number, and it looks
at the bound when none is idle.
-/

namespace ConnPool

open Pool

/-- The lists of a pool keep within the limits of its settings. -/
structure Bounded (p : Pool) (hand : Option (Acquire × Ref)) : Prop where
  total : hand.toList.length + p.active.length + p.idle.length ≤ p.settings.maxActive
  idle : p.idle.length ≤ p.settings.maxIdle

namespace Bounded

variable {e e' : Env} {p p' : Pool} {r : Ref}

theorem of_empty (ha : p.active = []) (hi : p.idle = []) : Bounded p none := by
  constructor <;> simp [ha, hi]

theorem seek {n : Nat} {raised : Bool} {g g' : Stage} (st : Seek n raised g g')
    (h : Bounded g.pool g.phase.hand) : Bounded g'.pool g'.phase.hand := by
  have htotal := h.total
  have hidle := h.idle
  cases st with
  | rouse | stop | shut | refused | interrupted | timeOut | sleep => exact ⟨htotal, hidle⟩
  | @takeIdle e p a r rest ho hi =>
    simp only [hi, List.length_cons] at htotal hidle
    refine ⟨?_, Nat.le_of_succ_le hidle⟩
    change 1 + p.active.length + rest.length ≤ p.settings.maxActive
    omega
  | @openNew e p a e' hroom he =>
    refine ⟨?_, hidle⟩
    change 1 + p.active.length + p.idle.length ≤ p.settings.maxActive
    rw [hroom.idle]
    exact Nat.add_comm 1 _ ▸ hroom.room
  | @takeOver e p a r rest held e' ho hi hf ha hh ht he =>
    refine ⟨?_, hidle⟩
    change 1 + rest.length + p.idle.length ≤ p.settings.maxActive
    simp only [ha, List.length_cons] at htotal
    omega
  | @handOut e p a r e' hv he =>
    refine ⟨?_, hidle⟩
    change 0 + (p.active ++ [r]).length + p.idle.length ≤ p.settings.maxActive
    simp only [List.length_append, List.length_singleton]
    change 1 + p.active.length + p.idle.length ≤ p.settings.maxActive at htotal
    omega
  | @reject e p a r e' | @giveUp e p a r e' =>
    refine ⟨?_, hidle⟩
    change 0 + p.active.length + p.idle.length ≤ p.settings.maxActive
    change 1 + p.active.length + p.idle.length ≤ p.settings.maxActive at htotal
    omega

theorem yield {n : Nat} {who : Handback} (y : Yield n who e p e' p')
    (ho : Owned e p (p.live none)) (hidle : ∀ r ∈ who.ref?, r ∉ p.idle) (h : Bounded p none) :
    Bounded p' none := by
  have hless : ∀ q : Pool, q.settings = p.settings → q.active.length ≤ p.active.length →
      q.idle = p.idle → Bounded q none := by
    intro q hs ha hi
    refine ⟨?_, by rw [hs, hi]; exact h.idle⟩
    have htotal := h.total
    rw [hs, hi]
    omega
  cases y with
  | spurn | discard | close | letGo | detach => exact hless _ rfl List.length_erase_le rfl
  | @store _ _ r t e₁ hv hk ht he =>
    have ha := ho.mem_active hv (hidle r rfl)
    have hlen := List.length_erase_of_mem ha
    have hpos := List.length_pos_of_mem ha
    have htotal := h.total
    have hroom : p.idle.length < p.settings.maxIdle := by
      simp only [keeps, Bool.and_eq_true, decide_eq_true_eq] at hk
      exact hk.1.2
    constructor
    · change 0 + (p.active.erase r).length + (p.idle ++ [p.handles.length]).length ≤
        p.settings.maxActive
      rw [List.length_append, List.length_singleton]
      change 0 + p.active.length + p.idle.length ≤ p.settings.maxActive at htotal
      omega
    · change (p.idle ++ [p.handles.length]).length ≤ p.settings.maxIdle
      rw [List.length_append]
      exact hroom
  | drain | change | shutDown => exact of_empty (active_emptied _) (idle_emptied _)

end Bounded

end ConnPool
