import ConnPool.Proofs.Pool.Isolated
import ConnPool.Proofs.Pool.Prepared
import ConnPool.Proofs.Pool.Sifting

/-!
# Endpoints of handles

The endpoint that a handle is bound to is written when its connection is wrapped and when it is
handed out, and goes along to the next handle of the connection. The endpoint that the pool expects
of what is returned is a copy of its own, written when the connections are given up. Nothing else
writes either of them.

* `Seeks.endpoint`: a handle that is handed out is bound to the target with the login of its
  acquire.
* `Yield.endpoint`: what is given back stays bound to what it was bound to.
* `idleBound_invariant`: an idle handle is bound to what the pool expects.
* `Yield.keeps_of_new`: so what the pool does not expect is not kept.
-/

namespace ConnPool

open Pool

/-- The login makes no difference to the endpoint of a target just if it is that of the target. -/
theorem Target.endpoint_loggedIn_iff {t : Target} {username password : String} :
    (t.withLogin (some (username, password))).endpoint = t.endpoint ↔
      t.username = some username ∧ t.password = some password := by
  simp only [withLogin, loggedIn, endpoint, Endpoint.mk.injEq, true_and]
  exact and_congr eq_comm eq_comm

/-- The handles that wait to be handed out are bound to the endpoint that the pool expects. -/
def Pool.IdleBound (p : Pool) : Prop := ∀ r ∈ p.idle, (p.handle r).data.endpoint = p.expected

section

variable {n : Nat} {raised : Bool} {g g' : Stage}

/-! ## Turns -/

theorem Seek.expected (st : Seek n raised g g') : g'.pool.expected = g.pool.expected := by
  cases st <;> rfl

theorem Seek.idleBound (st : Seek n raised g g')
    (ho : Owned g.env g.pool (g.pool.live g.phase.hand)) (h : g.pool.IdleBound) :
    g'.pool.IdleBound := by
  intro r hr
  have hidle : r ∈ g.pool.idle := st.idle.subset hr
  have hlisted : r ∈ g.pool.active ++ g.pool.idle := List.mem_append_right _ hidle
  have hsame : g'.pool.handle r = g.pool.handle r := by
    refine st.handle_same ho (ho.lt (mem_live_of_idle hidle)) (fun a hhand => ?_) fun hactive => ?_
    · rw [hhand] at ho
      exact ho.hand_notMem hlisted
    · exact absurd hidle (ho.notMem_idle hactive)
  rw [hsame, st.expected]
  exact h r hidle

/-- A turn that ends with a handle has bound it to the target of the pool, with the login of the
acquire. -/
theorem Seeks.endpoint {e : Env} {p : Pool} {a : Acquire} {r : Ref}
    (hs : Seeks n raised g ⟨e, p, .ended (.done a (.ok r))⟩) (hstart : g.phase.Starts) :
    (p.handle r).data.endpoint = (p.target.withLogin g.phase.login).endpoint := by
  obtain ⟨g₁, -, st⟩ := hs.last hstart
  have hlogin : a.login = g.phase.login := hs.aims.login
  rw [← hlogin]
  cases st with
  | handOut hv => exact congrArg (·.data.endpoint) (handle_withHandle_self _ (lt_of_valid hv))

end

/-! ## What is given back -/

section

variable {n : Nat} {who : Handback} {e e' : Env} {p p' : Pool} {r : Ref}

theorem Yield.endpoint (y : Yield n who e p e' p') (hr : r < p.handles.length) :
    (p'.handle r).data.endpoint = (p.handle r).data.endpoint := by
  have hretire : ∀ (q : Pool) (s : Ref) (state : HandleState), q.handles = p.handles →
      ((q.withHandle s (·.retire state)).handle r).data.endpoint = (p.handle r).data.endpoint := by
    intro q s state hq
    rw [← handle_congr hq]
    exact part_withHandle (·.data.endpoint) q s r (f := (·.retire state)) fun _ => rfl
  cases y with
  | spurn | letGo => rfl
  | discard | close | detach => exact hretire _ _ _ rfl
  | @store _ _ s t e' =>
    have hne : r ≠ ((p.timed s t).withHandle s (·.retire .invalid)).handles.length := by
      rw [length_withHandle]
      exact Nat.ne_of_lt hr
    refine (congrArg (·.data.endpoint) (handle_add_ne _ _ hne)).trans ?_
    exact hretire _ _ _ rfl
  | drain | change | shutDown => exact endpoint_emptied _ r

/-- As long as something is checked out the target is the same. -/
theorem Yield.target (y : Yield n who e p e' p') (hr : r ∈ p'.active) : p'.target = p.target := by
  cases y with
  | spurn | discard | store | close | letGo | detach => rfl
  | drain | change | shutDown => exact absurd hr (by simp)

/-- Nothing but a return adds to the idle list, and only if the pool keeps what is returned. -/
theorem Yield.keeps_of_new (y : Yield n who e p e' p') (hr : r ∈ p'.idle) (hnew : r ∉ p.idle) :
    ∃ s, who = .release s ∧ (p.handle s).valid = true ∧ p.keeps s = true ∧
      r = p.handles.length ∧ (p'.handle r).data.endpoint = (p.handle s).data.endpoint ∧
      p'.expected = p.expected := by
  cases y with
  | spurn | discard | close | letGo | detach => exact absurd hr hnew
  | @store _ _ s t e' hv hk =>
    rcases List.mem_append.1 hr with hr | hr
    · exact absurd hr hnew
    · cases List.mem_singleton.1 hr
      refine ⟨s, rfl, hv, hk, rfl, ?_, rfl⟩
      exact congrArg (·.data.endpoint) (handle_passOn_new (p.timed s t) s .invalid _)
  | drain | change | shutDown => exact absurd hr (by simp)

theorem endpoint_of_keeps (h : p.keeps r = true) : (p.handle r).data.endpoint = p.expected := by
  simp only [keeps, Bool.and_eq_true, beq_iff_eq] at h
  exact h.2

theorem Yield.idleBound (y : Yield n who e p e' p') (ho : Owned e p (p.live none))
    (h : p.IdleBound) : p'.IdleBound := by
  intro r hr
  by_cases hold : r ∈ p.idle
  · have hexpected : p'.expected = p.expected := by
      cases y with
      | spurn | discard | store | close | letGo | detach => rfl
      | drain | change | shutDown => exact absurd hr (by simp)
    rw [y.endpoint (ho.lt (mem_live_of_idle hold)), hexpected]
    exact h r hold
  · obtain ⟨s, -, -, hk, -, hbound, hexpected⟩ := y.keeps_of_new hr hold
    rw [hbound, hexpected]
    exact endpoint_of_keeps hk

end

end ConnPool
