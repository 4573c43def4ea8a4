import ConnPool.Proofs.World.Courses
import ConnPool.Proofs.World.Accounting

/-!
# What a failed acquire leaves behind

An acquire can fail at five places of its loop, and before that it may have taken connections out of
the lists, opened new ones or taken a checkout over. Which of these can come before which failure is
told by the course of the turn. An acquire that fails because the pool is shut down or has nothing
to offer fails before its first candidate, so it leaves everything as it was (`Intact`). One that
cannot open a connection or gives up has got rid of all that it had in hand (`Cleared`).

* `Scene.Hushed`: connections change when they are called, and at no other time.

**Theorem (`failed_acquire_leaks_nothing`).** An acquire that fails leaks nothing.
-/

namespace ConnPool

open Pool

/-! ## Connections that nobody talks to -/

theorem Env.Opens.length_lt {n conn : Nat} {target : Target} {outcome : Except Fault Unit}
    {e e' : Env} (h : e.Opens n conn target outcome e') : e.calls.length < e'.calls.length := by
  obtain ⟨took, notices, hl⟩ := h
  exact hl.grows.calls.length_le

section

variable {S : Type}

/-- The backend is the same unless it was called. -/
structure Scene.Hushed (s s' : Scene S) : Prop where
  calls : s.env.calls <:+ s'.env.calls
  backend : s'.env.calls = s.env.calls → s'.backend = s.backend

namespace Scene.Hushed

theorem refl (s : Scene S) : s.Hushed s := ⟨List.suffix_refl _, fun _ => rfl⟩

theorem trans {s s₁ s₂ : Scene S} (h₁ : s.Hushed s₁) (h₂ : s₁.Hushed s₂) : s.Hushed s₂ where
  calls := h₁.calls.trans h₂.calls
  backend heq := by
    -- The journal grows in both parts, so neither of them may add a call.
    have hmid : s₁.env.calls = s.env.calls := (heq ▸ h₂.calls).eq_of_length_le h₁.calls.length_le
    exact (h₂.backend (heq.trans hmid.symm)).trans (h₁.backend hmid)

/-- The backend was called. -/
theorem of_call {s s' : Scene S} (he : s.env.Grows s'.env)
    (hlt : s.env.calls.length < s'.env.calls.length) : s.Hushed s' := by
  refine ⟨he.calls, fun heq => ?_⟩
  rw [heq] at hlt
  exact absurd hlt (Nat.lt_irrefl _)

end Scene.Hushed

variable [Backend S]

theorem upkeep_hushed : Upkeep (Scene.Hushed (S := S)) where
  refl := .refl
  trans := .trans
  env he := ⟨he.calls, fun _ => rfl⟩
  pool _ := ⟨List.suffix_refl _, fun _ => rfl⟩
  ask conn question s :=
    .of_call (upkeep_grows.ask conn question s) (Nat.lt_succ_self _)
  tell conn command hcare s := by
    have hgrows := upkeep_grows.tell conn command hcare s
    unfold Talk.tell at hgrows ⊢
    split at hgrows
    · next htakes =>
      rw [if_pos htakes]
      exact .of_call hgrows (Nat.lt_succ_self _)
    · next htakes =>
      rw [if_neg htakes]
      exact .refl s
  openNew login s := by
    have hends : Ends (openNew login) s fun _ s' => s.Hushed s' := by
      refine (openNew_opens login s).mono fun _ s' ⟨outcome, e, hopens, hgrows⟩ => ?_
      have hlt := Nat.lt_of_lt_of_le hopens.length_lt hgrows.calls.length_le
      exact .of_call (hopens.grows.trans hgrows) hlt
    exact hends

end

/-! ## The errors of an acquire -/

/-- An acquire that comes to the pool fails in one of these ways. -/
theorem Seeks.error {n : Nat} {raised : Bool} {g : Stage} {e : Env} {p : Pool} {a : Acquire}
    {error : PoolError} (hs : Seeks n raised g ⟨e, p, .ended (.done a (.error error))⟩)
    (hstart : g.phase.Starts) :
    (error = .closed ∨ error = .interrupted ∨ ∃ after, error = .timeout after) ∨
      ((∃ fault, error = .factory fault) ∨ ∃ k, error = .exhausted k) := by
  obtain ⟨g₁, -, st⟩ := hs.last hstart
  cases st with
  | shut => exact .inl (.inl rfl)
  | stop | interrupted => exact .inl (.inr (.inl rfl))
  | timeOut => exact .inl (.inr (.inr ⟨_, rfl⟩))
  | refused => exact .inr (.inl ⟨_, rfl⟩)
  | giveUp => exact .inr (.inr ⟨_, rfl⟩)

namespace World

variable {S : Type}

/-! ## What is left behind -/

/-- A pool and its connections are as they were: the lists, every handle, and the backend, which
nobody called. -/
structure Intact (w w' : World S) (site site' : Site S) : Prop where
  active : site'.pool.active = site.pool.active
  idle : site'.pool.idle = site.pool.idle
  handles : site'.pool.handles = site.pool.handles
  backend : site'.backend = site.backend
  calls : w'.env.calls = w.env.calls

/-- All that an acquire had in hand is gone from pool `n`, and nothing else is. -/
structure Cleared (n : Nat) (w w' : World S) (p p' : Pool) : Prop where
  /-- The first checkout may be missing, if it had lasted too long, and was taken over then. -/
  active : p'.active = p.active ∨ ∃ r, p.active = r :: p'.active ∧
    p.settings.checkoutTimeout < (p.handle r).data.checkoutTime w.env.now ∧
      (p'.handle r).data.state = .reclaimed
  idle : p'.idle <:+ p.idle
  same : ∀ r ∈ p'.active ++ p'.idle, p'.handle r = p.handle r
  requests : p'.tally.requests = p.tally.requests
  /-- What is missing from the lists was told to close, or said that it is closed. -/
  removed : ∀ conn ∈ w.listed n, conn ∉ w'.listed n → w.env.SeenOff n conn w'.env
  /-- So was what was opened. -/
  opened : ∀ conn, w'.env.Opened n conn → ¬w.env.Opened n conn → w.env.SeenOff n conn w'.env

/-- What an acquire of pool `n` that fails with an error leaves behind after its last turn. -/
structure LeftBy (n : Nat) (error : PoolError) (w w' : World S) (site site' : Site S) : Prop where
  after : w'.sites[n]? = some site'
  others : ∀ m, m ≠ n → w'.sites[m]? = w.sites[m]?
  how : (error = .closed ∨ error = .interrupted ∨ ∃ after, error = .timeout after) ∧
      Intact w w' site site' ∨
    ((∃ fault, error = .factory fault) ∨ ∃ k, error = .exhausted k) ∧
      Cleared n w w' site.pool site'.pool

variable [Bench S] {w w' : World S} {n t : Nat} {p p' : Pool} {phase : Phase} {a : Acquire}
  {error : PoolError}

theorem Course.cleared (h : Course n t w w' p phase (.done a (.error error)) p')
    (hw : Reachable w) (hn : w.pools[n]? = some p)
    (herror : Turn.inVain (.done a (.error error)) = false) : Cleared n w w' p p' := by
  obtain ⟨raised, hseeks⟩ := h.seeks
  obtain ⟨gone, hsifts⟩ := h.sifts herror
  have hsame := fun r hr => hseeks.handle_same h.owned (s := r) hr List.not_mem_nil
  have hcustody : ∀ conn,
      Custody n conn w.env (p.conns phase.hand) w'.env (p'.conns none) := fun conn =>
    (Custody.seeks hseeks h.owned (attemptsOf_eq hn ▸ hw.numbered n)).1
  have hlisted : w.listed n = p.conns phase.hand := by rw [listed_eq hn, h.starts.hand]
  have hlisted' : w'.listed n = p'.conns none := listed_eq h.after
  constructor
  case active =>
    have hactive : p.active ++ [] = gone.toList ++ p'.active := hsifts.active
    rw [List.append_nil] at hactive
    cases gone with
    | none => exact .inl hactive.symm
    | some r => exact .inr ⟨r, hactive, (hsifts.forfeit r rfl).overdue, (hsifts.spent r rfl).2⟩
  case idle => exact hseeks.idle
  case same => exact fun r hr => (hsame r hr).2
  case requests =>
    have hrequests := hseeks.balanced.requests
    rw [show phase.handed = [] from h.starts.handed] at hrequests
    exact hrequests
  case removed =>
    intro conn hin hout
    rw [hlisted] at hin
    rw [hlisted'] at hout
    exact ((hcustody conn).kept (.inl hin)).resolve_left hout
  case opened =>
    intro conn hopened hnew
    refine ((hcustody conn).kept (.inr ⟨hopened, hnew⟩)).resolve_left fun hin => hnew ?_
    obtain ⟨r, hr, rfl⟩ := List.mem_map.1 hin
    obtain ⟨hold, heq⟩ := hsame r hr
    refine hw.opened_of_listed ?_
    rw [listed_eq hn, connOf, heq]
    exact List.mem_map_of_mem hold

/-- Let an acquire end with an error in its turn at pool `n`. If the pool is shut down, or the
acquire is interrupted, or it waited for too long, then all is as it was when the turn began. If it
could not open a connection, or gave up, then it got rid of all that it had taken or opened. -/
theorem failed_acquire_leaks_nothing (hw : Reachable w) (ht : TurnOf n t w w') {site : Site S}
    (hn : w.sites[n]? = some site) (herror : w'.tickets[t]? = some (.failed error)) :
    ∃ site', LeftBy n error w w' site site' := by
  have hp := pools_getElem? hn
  obtain ⟨phase, turn, p', h⟩ := ht.course hw hp
  obtain ⟨a, rfl⟩ := Turn.eq_of_failed (Option.some.inj (h.ticket.symm.trans herror))
  obtain ⟨turn, s, hhushed, hended⟩ := ht.ends_of hw hn
    (P := fun _ s => (w.scene n site).Hushed s)
    (fun raised login => (upkeep_hushed.begin_serves raised login _).keeps)
    (fun raised v _ => (upkeep_hushed.resume_serves raised v.began v.acquire _).keeps)
  have hafter := hended.site_eq hn
  obtain rfl : s.pool = p' := Option.some.inj ((pools_getElem? hafter).symm.trans h.after)
  refine ⟨_, hafter, fun m hm => hended.others hm, ?_⟩
  obtain ⟨raised, hseeks⟩ := h.seeks
  rcases hseeks.error h.starts with hvain | htried
  · have hturn : Turn.inVain (.done a (.error error)) = true := by
      rcases hvain with rfl | rfl | ⟨after, rfl⟩ <;> rfl
    have hu := h.untouched hturn
    refine .inl ⟨hvain, hu.active, hu.idle, hu.handles, hhushed.backend ?_, hu.calls⟩
    rw [← hended.env]
    exact hu.calls
  · have hturn : Turn.inVain (.done a (.error error)) = false := by
      rcases htried with ⟨fault, rfl⟩ | ⟨k, rfl⟩ <;> rfl
    exact .inr ⟨htried, h.cleared hw hp hturn⟩

/-- The only connection of a pool has been out for too long, and is closed behind the back of its
caller. The pool puts up with no bad connection. -/
def severed : World Scripted :=
  runAll {} [
    .create {} {
      settings := { maxActive := 1, maxIdle := 0, badTolerance := 0, checkoutTimeout := 5 }
      target := { url := "db" } },
    .acquire 0 .ordinary false, .advance 9,
    .act (.order 0 (Scripted.Order.alter 1 { closed := some true }))]

/-- The next acquire takes the connection over and gives up. -/
theorem failed_acquire_leaks_nothing_severed :
    ∃ site site', severed.sites[0]? = some site ∧ site.pool.active = [0] ∧
      site'.pool.active = [] ∧
        LeftBy 0 (.exhausted 1) severed (severed.start 0 none none) site site' := by
  obtain ⟨site, hn, hactive⟩ : ∃ site ∈ severed.sites[0]?, site.pool.active = [0] := by
    decide +kernel
  have herror : (severed.start 0 none none).tickets[1]? = some (.failed (.exhausted 1)) := by
    decide +kernel
  have hturn : TurnOf 0 1 severed (severed.start 0 none none) :=
    .start .ordinary none rfl rfl (by decide +kernel)
  obtain ⟨site', hleft⟩ :=
    failed_acquire_leaks_nothing (Reachable.runAll .refl _) hturn hn herror
  have hempty : ∀ site' ∈ (severed.start 0 none none).sites[0]?, site'.pool.active = [] := by
    decide +kernel
  exact ⟨site, site', hn, hactive, hempty site' hleft.after, hleft⟩

end World

end ConnPool
