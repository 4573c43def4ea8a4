import ConnPool.Proofs.Pool.Judged
import ConnPool.Proofs.Pool.Sifting

/-!
# Returns

The return of a valid handle asks up to three things of its connection: to pass the probe, to leave
nothing pending, and to be closed. Each can fail by itself. The answers to the first two, and what
the pool has room for, decide between three ends (`Homecoming`), and there is one lemma for each.

* `release_unhealthy`: a connection that fails the probe is discarded.
* `release_kept`: one that is left clean, and has a place in the idle list, goes there.
* `release_unkept`: any other one is closed.

**Theorem (`release_homecoming`).** A return ends in one of the three ways, and what it does to the
lists and the handles of the pool is the same in all of them but for the new idle handle.
-/

namespace ConnPool

open Pool

/-- The calls of a talk about some connections are to those. -/
theorem Env.Later.calls_through {n : Nat} {conns : List Nat} {e e' : Env} {said : List Call}
    (h : e.Later n conns e') (hsaid : e.Through said e') :
    ∀ c ∈ said, c.site = n ∧ c.conn ∈ conns := by
  obtain ⟨new, hnew, hconns⟩ := h.calls
  have heq : said.reverse = new := List.append_cancel_right (hsaid.symm.trans hnew)
  intro c hc
  obtain ⟨hsite, hconn, -⟩ := hconns c (heq ▸ List.mem_reverse.2 hc)
  exact ⟨hsite, hconn⟩

/-- A connection that was seen off was so by one of the calls. -/
theorem Env.SeenOff.calls_through {n conn : Nat} {e e' : Env} {said : List Call}
    (h : e.SeenOff n conn e') (hsaid : e.Through said e') :
    ∃ c ∈ said, c.deed.seesOff = true := by
  obtain ⟨new, hnew, c, hc, -, -, hoff⟩ := h
  have heq : said.reverse = new := List.append_cancel_right (hsaid.symm.trans hnew)
  exact ⟨c, List.mem_reverse.1 (heq ▸ hc), hoff⟩

/-- What a return says to the backend is about the connection of the handle. -/
theorem Yield.calls_release {n : Nat} {e e' : Env} {p p' : Pool} {r : Ref} {said : List Call}
    (y : Yield n (.release r) e p e' p') (hsaid : e.Through said e') :
    ∀ c ∈ said, c.site = n ∧ c.conn = p.connOf r := by
  have hlater : ∀ e₁, e.Later n [p.connOf r] e₁ → e₁.calls = e'.calls →
      ∀ c ∈ said, c.site = n ∧ c.conn = p.connOf r := by
    intro e₁ he hcalls c hc
    have hsaid₁ : e.Through said e₁ := hcalls.trans hsaid
    obtain ⟨hsite, hconn⟩ := he.calls_through hsaid₁ c hc
    exact ⟨hsite, List.mem_singleton.1 hconn⟩
  cases y with
  | spurn _ he | discard _ he | close _ _ he => exact hlater _ he rfl
  | store _ _ _ he => exact hlater _ he rfl

namespace Pool

variable {S : Type} [Backend S] {r : Ref} {s : Scene S}

/-- A connection that fails the probe on its return is discarded. -/
theorem release_unhealthy (hv : (s.pool.handle r).valid = true)
    (h : (probed r s).1.healthy = false) :
    Ends (release r) s fun _ s' =>
      s'.pool = s.pool.discarded r ∧ s.env.SeenOff s.site (s.pool.connOf r) s'.env := by
  have hsound : Ends (isSound r) { s with pool := s.pool.checkedIn r } fun sound s₁ =>
      sound = false ∧ Scene.Chats [s.pool.connOf r] { s with pool := s.pool.checkedIn r } s₁ := by
    refine ⟨?_, isSound_chats r { s with pool := s.pool.checkedIn r }⟩
    rw [isSound_answer, Bool.and_eq_false_iff]
    exact .inr h
  refine .bind <| .update <| .bind <| hsound.mono fun sound s₁ ⟨hbad, h₁⟩ => ?_
  subst hbad
  refine .bind <| .handleAt <| .bind <| .note <| .bind <| .count ?_
  simp only [h₁.pool, handle_checkedIn, hv]
  refine .chatsAnd (scrap_chats r _) (scrap_seesOff r _) fun _ s₂ h₂ hseen => ⟨h₂.pool, ?_⟩
  have hgrows : s.env.Grows s₁.env := h₁.grows
  exact .after (hgrows.note _) (h₁.site ▸ hseen)

/-- What is left to show of the return of a sound connection is how it ends. -/
theorem release_healthy {P : Unit → Scene S → Prop} (hv : (s.pool.handle r).valid = true)
    (h : (probed r s).1.healthy = true)
    (hon : ∀ (clean : Bool) (s₁ : Scene S) (said : List Call),
      (clean = true ↔ (cleared r s).1 = .ok ()) →
      Scene.Chats [s.pool.connOf r] { s with pool := s.pool.timed r (probed r s).2.env.now } s₁ →
      s.env.Through said s₁.env → closeCalls said = 0 →
      Ends (if clean && s₁.pool.keeps r then store r else closeReturned r) s₁ P) :
    Ends (release r) s P := by
  have hrun := isSound_of_healthy (s := { s with pool := s.pool.checkedIn r }) hv h
  obtain ⟨hsite, said, hsaid, hopen⟩ := probed_utters h
  have hsound : Ends (isSound r) { s with pool := s.pool.checkedIn r } fun sound s₁ =>
      sound = true ∧ s₁ = ⟨(probed r s).2, s.pool.checkedIn r⟩ := by
    rw [Ends, hrun]
    exact ⟨rfl, rfl⟩
  refine .bind <| .update <| .bind <| hsound.mono fun sound s₁ ⟨hgood, h₁⟩ => ?_
  subst hgood h₁
  refine .bind <| .now <| .bind <| .handleAt <| .bind <| .count <| .bind ?_
  have hanswer := isCleared_answer r
    (⟨(probed r s).2, s.pool.timed r (probed r s).2.env.now⟩ : Scene S)
  refine Ends.mono (P := fun clean s₂ => (clean = true ↔ (cleared r s).1 = .ok ()) ∧
    Scene.Chats [s.pool.connOf r] ⟨(probed r s).2, s.pool.timed r (probed r s).2.env.now⟩ s₂ ∧
    ∃ more, (probed r s).2.env.Through more s₂.env ∧ closeCalls more = 0) ?_ ?_
  · obtain ⟨hchats, outcome, more, hmore, hsettles, -⟩ := isCleared_utters r
      (⟨(probed r s).2, s.pool.timed r (probed r s).2.env.now⟩ : Scene S)
    exact ⟨hanswer, hchats, more, hmore, hsettles.closeCalls_eq⟩
  · rintro clean s₂ ⟨hclean, h₂, more, hmore, hquiet⟩
    refine .bind <| .look <| hon clean s₂ (said ++ more) hclean ?_ (hsaid.trans hmore) ?_
    · have hprobe : Scene.Chats [s.pool.connOf r]
          { s with pool := s.pool.timed r (probed r s).2.env.now }
          ⟨(probed r s).2, s.pool.timed r (probed r s).2.env.now⟩ := ⟨rfl, hsite, probed_later r s⟩
      exact hprobe.trans h₂
    · rw [closeCalls_append, hopen, hquiet]

/-! ## A place in the idle list -/

/-- The connection of handle `r` is left clean after the probe, and the pool has room for it and
expects the endpoint that it is bound to. -/
structure Welcome (r : Ref) (s : Scene S) : Prop where
  cleared : (Pool.cleared r s).1 = .ok ()
  room : s.pool.idle.length < s.pool.settings.maxIdle
  bound : (s.pool.handle r).data.endpoint = s.pool.expected

theorem welcome_iff (ho : s.pool.closed = false) :
    Welcome r s ↔ (cleared r s).1 = .ok () ∧ s.pool.keeps r = true := by
  have hkeeps : s.pool.keeps r = true ↔ s.pool.idle.length < s.pool.settings.maxIdle ∧
      (s.pool.handle r).data.endpoint = s.pool.expected := by
    simp [keeps, ho]
  rw [hkeeps]
  exact ⟨fun h => ⟨h.cleared, h.room, h.bound⟩, fun h => ⟨h.1, h.2.1, h.2.2⟩⟩

theorem release_kept (hv : (s.pool.handle r).valid = true) (ho : s.pool.closed = false)
    (h : (probed r s).1.healthy = true) (hwelcome : Welcome r s) :
    Ends (release r) s fun _ s' =>
      s'.pool = s.pool.stored r (probed r s).2.env.now s.env.nextHandle ∧
        ∃ said, s.env.Through said s'.env ∧ closeCalls said = 0 := by
  obtain ⟨hclear, hkeeps⟩ := (welcome_iff ho).1 hwelcome
  refine release_healthy hv h fun clean s₁ said hclean h₁ hsaid hopen => ?_
  have hkeeps₁ : s₁.pool.keeps r = true := by
    rw [h₁.pool]
    exact hkeeps
  rw [if_pos (by rw [hclean.2 hclear, hkeeps₁]; rfl)]
  refine ends_store ?_ ⟨?_, said, hsaid, hopen⟩
  · rw [h₁.pool]
    exact lt_of_valid hv
  · rw [h₁.pool, h₁.env.nextHandle]
    rfl

theorem release_unkept (hv : (s.pool.handle r).valid = true) (ho : s.pool.closed = false)
    (h : (probed r s).1.healthy = true) (hwelcome : ¬Welcome r s) :
    Ends (release r) s fun _ s' =>
      s'.pool = s.pool.closedOut r (probed r s).2.env.now ∧
        ∃ said, s.env.Through said s'.env ∧ closeCalls said = 1 := by
  refine release_healthy hv h fun clean s₁ said hclean h₁ hsaid hopen => ?_
  have hkeeps : ¬(clean && s₁.pool.keeps r) = true := by
    rw [Bool.and_eq_true, hclean, h₁.pool]
    exact fun hboth => hwelcome ((welcome_iff ho).2 hboth)
  rw [if_neg hkeeps]
  refine .bind <| .handleAt <| .bind <| .retire <| .bind <|
    ends_utters (Talk.dispose_utters s₁.site _) rfl fun _ s₂ more hpool _ hmore hclose =>
      .note ⟨?_, said ++ more, hsaid.trans hmore, ?_⟩
  · rw [hpool, h₁.pool]
    rfl
  · obtain ⟨outcome, rfl⟩ := hclose
    rw [closeCalls_append, hopen]
    rfl

/-! ## The ends of a return -/

/-- The counts of the pool after the checkout of a sound connection ended. -/
def timedTally (r : Ref) (s : Scene S) : Tally :=
  { s.pool.tally with
    checkoutTime := s.pool.tally.checkoutTime +
      (s.pool.handle r).data.checkoutTime (probed r s).2.env.now }

/-- Handle `r`, and no other one, was taken off the checkouts of `p` and retired. Nothing else of
the pool changed but the idle list and what it counts. -/
structure PutAway (r : Ref) (p p' : Pool) : Prop where
  active : p'.active = p.active.erase r
  retired : (p'.handle r).valid = false
  handles : ∀ t < p.handles.length, t ≠ r → p'.handle t = p.handle t
  rest : p' = { p with
    active := p'.active, idle := p'.idle, tally := p'.tally, handles := p'.handles }

omit [Backend S] in
theorem PutAway.of_retire {p : Pool} (hr : r < p.handles.length) (tally : Tally)
    (state : HandleState) :
    PutAway r p ({ p.checkedIn r with tally }.withHandle r (·.retire state)) where
  active := rfl
  retired := congrArg Handle.valid (handle_withHandle_self _ hr)
  handles _ _ hne := handle_withHandle_ne _ _ hne
  rest := rfl

omit [Backend S] in
theorem PutAway.of_stored {p : Pool} (hr : r < p.handles.length) (t : Instant) (id : Nat) :
    PutAway r p (p.stored r t id) where
  active := rfl
  retired := congrArg Handle.valid (handle_passOn_self (p.timed r t) hr _ _)
  handles _ hlt hne := handle_passOn_ne (p.timed r t) _ _ hne (Nat.ne_of_lt hlt)
  rest := rfl

/-- What becomes of the connection of handle `r`, which is returned in scene `s`. The pool is `p'`
afterwards, and the calls are `said`. -/
inductive Homecoming (r : Ref) (s : Scene S) (said : List Call) (p' : Pool) : Prop
  /-- It fails the probe. It is told to close, unless it says that it is closed. -/
  | bad (hprobe : (probed r s).1.healthy = false)
      (hoff : ∃ c ∈ said, c.deed.seesOff = true)
      (htally : p'.tally = { s.pool.tally with bad := s.pool.tally.bad + 1 })
      (hidle : p'.idle = s.pool.idle) (hlength : p'.handles.length = s.pool.handles.length)
  /-- It goes to the end of the idle list under a new handle. -/
  | kept (hprobe : (probed r s).1.healthy = true) (hwelcome : Welcome r s)
      (hopen : closeCalls said = 0) (htally : p'.tally = timedTally r s)
      (hidle : p'.idle = s.pool.idle ++ [s.pool.handles.length])
      (hlength : p'.handles.length = s.pool.handles.length + 1)
      (hfresh : p'.handle s.pool.handles.length = ⟨(s.pool.handle r).raw, true,
        { (s.pool.handle r).data with
          id := s.env.nextHandle, checkoutAt := none, state := .idle }⟩)
  /-- It is told to close, once. -/
  | closed (hprobe : (probed r s).1.healthy = true) (hwelcome : ¬Welcome r s)
      (hclose : closeCalls said = 1) (htally : p'.tally = timedTally r s)
      (hidle : p'.idle = s.pool.idle) (hlength : p'.handles.length = s.pool.handles.length)

theorem release_homecoming (hv : (s.pool.handle r).valid = true) (ho : s.pool.closed = false) :
    Ends (release r) s fun _ s' => ∃ said, s.env.Through said s'.env ∧
      Homecoming r s said s'.pool ∧ PutAway r s.pool s'.pool := by
  have hlt : r < s.pool.handles.length := lt_of_valid hv
  have hsame : ∀ (tally : Tally) (state : HandleState),
      ({ s.pool.checkedIn r with tally }.withHandle r (·.retire state)).handles.length =
        s.pool.handles.length := fun tally state => length_withHandle _ r _
  cases hprobe : (probed r s).1.healthy with
  | false =>
    refine (release_unhealthy hv hprobe).mono ?_
    rintro _ s' ⟨hpool, hseen⟩
    obtain ⟨said, hsaid⟩ : ∃ said, s.env.Through said s'.env := by
      obtain ⟨new, hnew, -⟩ := hseen
      exact ⟨new.reverse, by rw [Env.Through, List.reverse_reverse, hnew]⟩
    refine ⟨said, hsaid, ?_⟩
    rw [hpool]
    exact ⟨.bad hprobe (hseen.calls_through hsaid) rfl rfl (hsame _ _), .of_retire hlt _ _⟩
  | true =>
    by_cases hwelcome : Welcome r s
    · refine (release_kept hv ho hprobe hwelcome).mono ?_
      rintro _ s' ⟨hpool, said, hsaid, hopen⟩
      refine ⟨said, hsaid, ?_⟩
      rw [hpool]
      refine ⟨.kept hprobe hwelcome hopen rfl rfl ?_ ?_, .of_stored hlt _ _⟩
      · exact length_passOn ..
      · exact handle_passOn_new ..
    · refine (release_unkept hv ho hprobe hwelcome).mono ?_
      rintro _ s' ⟨hpool, said, hsaid, hclose⟩
      refine ⟨said, hsaid, ?_⟩
      rw [hpool]
      exact ⟨.closed hprobe hwelcome hclose rfl rfl (hsame _ _), .of_retire hlt _ _⟩

end Pool

end ConnPool
