import ConnPool.Proofs.Pool.Tally

/-!
# The flag of an acquire

A turn is told whether the acquire is to be interrupted, and it asks in two places: right after the
acquire was woken, and where the pool turns out to be saturated. A search that is not saturated
comes by neither.

* `search_flag`: the flag makes no difference to a search that finds something.
* `begin_saturated`: an acquire that begins with the flag raised is interrupted by a saturated pool.
* `resume_raised`: an acquire that is woken with the flag raised is interrupted by any pool.
* `Seeks.raised_of_interrupted`: no other acquire is.
-/

namespace ConnPool

open Pool

namespace Pool

variable {S : Type} [Backend S]

/-- A search in a closed pool ends without a look at the lists. -/
theorem search_closed (raised : Bool) (tolerated : Nat) (a : Acquire) {s : Scene S}
    (hc : s.pool.closed = true) :
    search raised tolerated a s = (.done a (.error .closed), s) := by
  unfold search
  rw [bind_run, look_run]
  simp only [hc]
  rfl

/-- How a search in an open pool goes on once it is known what there is to find. -/
def searchFrom (raised : Bool) (tolerated : Nat) (a : Acquire) :
    Except PoolError (Option Ref) → Act S Turn
  | .error e => return .done a (.error e)
  | .ok none => wait raised a
  | .ok (some r) => do
    if ← isFit r then
      handOut a r
      return .done a (.ok r)
    else
      reject r
      searchOn raised tolerated { a with bad := a.bad + 1 }

theorem search_open (raised : Bool) (tolerated : Nat) (a : Acquire) {s : Scene S}
    (ho : s.pool.closed = false) :
    search raised tolerated a s =
      searchFrom raised tolerated a (nextCandidate a.login s).1 (nextCandidate a.login s).2 := by
  unfold search
  rw [bind_run, look_run]
  simp only [ho, Bool.false_eq_true, if_false]
  rw [bind_run]
  rcases nextCandidate a.login s with ⟨e | found, s₁⟩
  · rfl
  · cases found with
    | none => rfl
    | some r => cases tolerated <;> rfl

/-! ## Searches that find something -/

section

variable {raised : Bool} (raised' : Bool) {tolerated : Nat} {a : Acquire} {s : Scene S}

theorem searchFrom_flag {found : Except PoolError (Option Ref)}
    (hon : ∀ a (s : Scene S), (searchOn raised tolerated a s).1.isUnserved = false →
      searchOn raised' tolerated a s = searchOn raised tolerated a s)
    (h : (searchFrom raised tolerated a found s).1.isUnserved = false) :
    searchFrom raised' tolerated a found s = searchFrom raised tolerated a found s := by
  cases found with
  | error e => rfl
  | ok found =>
    cases found with
    | none => exact nomatch h.symm.trans (wait_unserved raised a s).1
    | some r =>
      simp only [searchFrom, bind_run] at h ⊢
      cases hfit : (isFit r s).1 with
      | true => rfl
      | false =>
        simp only [hfit, Bool.false_eq_true, if_false, bind_run] at h ⊢
        exact hon _ _ h

theorem search_flag_of
    (hon : ∀ a (s : Scene S), (searchOn raised tolerated a s).1.isUnserved = false →
      searchOn raised' tolerated a s = searchOn raised tolerated a s)
    (h : (search raised tolerated a s).1.isUnserved = false) :
    search raised' tolerated a s = search raised tolerated a s := by
  cases hc : s.pool.closed with
  | true => rw [search_closed _ _ _ hc, search_closed _ _ _ hc]
  | false =>
    rw [search_open _ _ _ hc] at h ⊢
    rw [search_open _ _ _ hc]
    exact searchFrom_flag raised' hon h

/-- The flag makes no difference to a search that finds something. -/
theorem search_flag (h : (search raised tolerated a s).1.isUnserved = false) :
    search raised' tolerated a s = search raised tolerated a s := by
  induction tolerated generalizing a s with
  | zero => exact search_flag_of raised' (fun _ _ _ => rfl) h
  | succ tolerated ih => exact search_flag_of raised' (fun _ _ => ih) h

theorem begin_flag {login : Option (String × String)}
    (h : (Pool.begin raised login s).1.isUnserved = false) :
    Pool.begin raised' login s = Pool.begin raised login s :=
  search_flag raised' h

end

/-! ## Interruption -/

section

variable {s : Scene S}

/-- There is nothing to find in a saturated pool. -/
theorem nextCandidate_saturated (login : Option (String × String))
    (h : s.pool.Saturated s.env.now) : nextCandidate login s = (.ok none, s) := by
  have htake : takeOver s = (none, s) := by
    unfold takeOver
    rw [bind_run, look_run]
    cases ha : s.pool.active with
    | nil => rfl
    | cons r rest =>
      have hfresh := h.fresh _ (by rw [oldestHeld, ha]; rfl)
      dsimp only
      rw [bind_run, now_run]
      simp only [if_pos hfresh]
      rfl
  unfold nextCandidate
  rw [bind_run, look_run]
  simp only [h.idle, if_neg (Nat.not_lt_of_le h.full)]
  rw [bind_run, htake]
  rfl

/-- An acquire that begins with the flag raised is interrupted by a saturated pool. Whether there is
any time to wait makes no difference. -/
theorem begin_saturated (login : Option (String × String)) (h : s.pool.Saturated s.env.now) :
    Pool.begin true login s =
      (.done { login, started := s.env.now, waitCounted := true } (.error .interrupted),
        { s with
          env := s.env.note .interrupted
          pool := s.pool.counted { login, started := s.env.now } }) := by
  have hsearch : ∀ tolerated,
      search true tolerated { login, started := s.env.now } s =
        wait true { login, started := s.env.now } s := by
    intro tolerated
    rw [search_open _ _ _ h.isOpen, nextCandidate_saturated _ h]
    rfl
  exact (hsearch _).trans rfl

/-- An acquire that is woken with the flag raised is interrupted by any pool. -/
theorem resume_raised (since : Instant) (a : Acquire) :
    (Pool.resume true since a s).1 = .done a (.error .interrupted) := rfl

end

end Pool

/-- Only an acquire whose flag is raised is interrupted. -/
theorem Seeks.raised_of_interrupted {n : Nat} {raised : Bool} {g : Stage} {e : Env} {p : Pool}
    {a : Acquire} (hs : Seeks n raised g ⟨e, p, .ended (.done a (.error .interrupted))⟩)
    (hstart : g.phase.Starts) : raised = true := by
  obtain ⟨g₁, -, st⟩ := hs.last hstart
  cases st with
  | stop hr | interrupted _ hr => exact hr

end ConnPool
