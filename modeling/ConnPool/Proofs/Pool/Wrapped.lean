import ConnPool.Proofs.Pool.Interrupted
import ConnPool.Proofs.Pool.Reuse

/-!
# When raw connections are wrapped

A raw connection is wrapped once, when it is opened and prepared, and its first handle has the time
of that and the number that it got. From then on the two are copied from handle to handle. They are
its `Birth`, and the table of a pool keeps the births of all connections for good.

* `Seek.births`, `Yield.births`: a birth is added where a connection is opened, and nowhere else.
* `Wraps`: where in its course a search opens connections.

**Theorem (`search_births`).** The births that a search adds are those of the connections that it
wraps.
-/

namespace ConnPool

open Pool

/-! ## Births -/

/-- A raw connection was wrapped at an instant, and got a number. -/
structure Birth where
  raw : Raw
  number : Nat
  time : Instant

/-- The birth of the raw connection of a handle, as the handle has it. -/
def Handle.birth (h : Handle) : Birth := ⟨h.raw, h.data.rawId, h.data.createdAt⟩

namespace Pool

/-- The births that the handles of a pool tell of. -/
def births (p : Pool) : List Birth := p.handles.map Handle.birth

variable {p p' : Pool} {r : Ref} {b : Birth}

theorem birth_mem_births (hr : r < p.handles.length) : (p.handle r).birth ∈ p.births := by
  rw [handle_eq_getElem hr]
  exact List.mem_map_of_mem (List.getElem_mem hr)

theorem exists_of_mem_births (hb : b ∈ p.births) :
    ∃ r < p.handles.length, (p.handle r).birth = b := by
  obtain ⟨h, hh, rfl⟩ := List.mem_map.1 hb
  obtain ⟨r, hr, rfl⟩ := List.getElem_of_mem hh
  exact ⟨r, hr, congrArg Handle.birth (handle_eq_getElem hr)⟩

theorem births_congr (h : p'.handles = p.handles) : p'.births = p.births :=
  congrArg (List.map Handle.birth) h

theorem births_withHandle (p : Pool) (r : Ref) {f : Handle → Handle}
    (hf : ∀ h, (f h).birth = h.birth) : (p.withHandle r f).births = p.births :=
  map_withHandle Handle.birth p r hf

theorem births_retire (p : Pool) (r : Ref) (state : HandleState) :
    (p.withHandle r (·.retire state)).births = p.births := births_withHandle p r fun _ => rfl

theorem births_add (p : Pool) (h : Handle) : (p.add h).births = p.births ++ [h.birth] := by
  simp only [births, add, List.map_append, List.map_singleton]

/-- A handle that takes a connection on has its birth from the handle before. -/
theorem mem_births_passOn (hr : r < p.handles.length) (state : HandleState) {data : Metadata}
    (hdata : Handle.birth ⟨(p.handle r).raw, true, data⟩ = (p.handle r).birth) :
    b ∈ (p.passOn r state data).births ↔ b ∈ p.births := by
  rw [passOn, births_add, births_retire, hdata, List.mem_append,
    List.mem_singleton]
  refine or_iff_left_of_imp fun hb => ?_
  rw [hb]
  exact birth_mem_births hr

theorem births_emptied (p : Pool) : p.emptied.births = p.births :=
  map_retireAll Handle.birth _ _ fun _ => rfl

/-- The first handle of a connection that was opened. -/
theorem handle_opened_self (p : Pool) (e : Env) (login : Option (String × String)) :
    (p.opened e login).handle p.handles.length =
      ⟨⟨e.nextRaw, p.attempts + 1, p.target.withLogin login⟩, true,
        .first e.nextHandle e.nextRaw (p.target.withLogin login).endpoint e.now⟩ :=
  handle_add_self { p with attempts := p.attempts + 1 } _

/-- The birth of a connection that was wrapped just now, in handle `r`. -/
def newborn (p : Pool) (r : Ref) (now : Instant) : Birth :=
  ⟨(p.handle r).raw, (p.handle r).raw.id, now⟩

theorem births_opened (p : Pool) (e : Env) (login : Option (String × String)) :
    (p.opened e login).births =
      p.births ++ [(p.opened e login).newborn p.handles.length e.now] := by
  rw [newborn, handle_opened_self]
  exact births_add _ _

/-- A handle whose checkout has lasted for a while is in the table. -/
theorem lt_of_checkoutTime {t : Instant} (h : 0 < (p.handle r).data.checkoutTime t) :
    r < p.handles.length := by
  by_contra hr
  rw [handle_of_length_le (Nat.le_of_not_lt hr)] at h
  exact Nat.lt_irrefl 0 h

end Pool

/-! ## Turns and operations -/

/-- In the step from stage `g` to stage `g'` a connection is opened and taken in hand, and `b` is
its birth. -/
structure Stage.Bears (g g' : Stage) (b : Birth) : Prop where
  room : g.pool.HasRoom
  birth : ∃ a r, g.phase = .seeking a ∧ g'.phase = .judging a r ∧
    b = g'.pool.newborn r g'.env.now

section

variable {n : Nat} {raised : Bool} {g g' : Stage} {b : Birth}

/-- The connection that is opened is the next one. -/
theorem Seek.conn_of_bears (st : Seek n raised g g') (h : g.Bears g' b) :
    b.raw.conn = g.pool.attempts + 1 := by
  obtain ⟨hroom, a, r, hphase, hphase', rfl⟩ := h
  have hfull := hroom.room
  cases st with
  | rouse | stop | handOut | reject | giveUp => cases hphase
  | shut | refused | interrupted | timeOut | sleep => cases hphase'
  | takeIdle _ hi => exact nomatch hroom.idle.symm.trans hi
  | takeOver _ _ hf => exact absurd hf (Nat.not_le_of_lt hfull)
  | @openNew e p a e' =>
    cases hphase'
    exact congrArg (·.raw.conn) (p.handle_opened_self e' a.login)

theorem Seek.births (st : Seek n raised g g') :
    b ∈ g'.pool.births ↔ b ∈ g.pool.births ∨ g.Bears g' b := by
  have hsame : (b ∈ g'.pool.births ↔ b ∈ g.pool.births) →
      (∀ a r, g.phase = .seeking a → g'.phase = .judging a r → ¬g.pool.HasRoom) →
        (b ∈ g'.pool.births ↔ b ∈ g.pool.births ∨ g.Bears g' b) := by
    intro hiff hno
    refine hiff.trans (or_iff_left ?_).symm
    rintro ⟨hroom, a, r, hphase, hphase', -⟩
    exact hno a r hphase hphase' hroom
  cases st with
  | rouse | stop | shut | refused | interrupted | timeOut | sleep => exact hsame .rfl nofun
  | @handOut e p a r | @reject e p a r | @giveUp e p a r =>
    refine hsame ?_ nofun
    exact iff_of_eq (congrArg (b ∈ ·) (births_withHandle p r fun _ => rfl))
  | takeIdle _ hi =>
    refine hsame .rfl fun _ _ _ _ hroom => ?_
    exact nomatch hroom.idle.symm.trans hi
  | @takeOver e p a r rest held e' _ _ hf _ hh ht =>
    refine hsame ?_ fun _ _ _ _ hroom => absurd hf (Nat.not_le_of_lt hroom.room)
    have hlong : 0 < (p.handle r).data.checkoutTime e.now := hh ▸ Nat.zero_lt_of_lt ht
    have hr := lt_of_checkoutTime hlong
    have hpass : b ∈ (p.passOn r .reclaimed ((p.handle r).data.renew e'.nextHandle)).births ↔
        b ∈ p.births := mem_births_passOn hr .reclaimed rfl
    exact hpass
  | @openNew e p a e' hroom he =>
    change b ∈ (p.opened e' a.login).births ↔ _
    rw [births_opened, List.mem_append, List.mem_singleton]
    refine or_congr_right ⟨fun hb => ⟨hroom, a, _, rfl, rfl, hb⟩, fun h => ?_⟩
    obtain ⟨-, c, r, -, hphase, hb⟩ := h
    cases hphase
    exact hb

/-- An operation adds no birth. -/
theorem Yield.births {who : Handback} {e e' : Env} {p p' : Pool} (y : Yield n who e p e' p') :
    b ∈ p'.births ↔ b ∈ p.births := by
  cases y with
  | spurn | letGo => exact .rfl
  | @discard _ _ r => exact iff_of_eq (congrArg (b ∈ ·) (births_retire (p.spurned r) r .invalid))
  | @close _ _ r t => exact iff_of_eq (congrArg (b ∈ ·) (births_retire (p.timed r t) r .closed))
  | @detach _ _ r => exact iff_of_eq (congrArg (b ∈ ·) (births_retire (p.checkedIn r) r .invalid))
  | @store _ _ r t e' hv => exact mem_births_passOn (p := p.timed r t) (lt_of_valid hv) _ rfl
  | drain => rw [births_emptied]
  | @change _ _ c => rw [births_emptied]; rfl
  | shutDown => rw [births_emptied]; rfl

end

/-! ## Searches -/

namespace Pool

variable {S : Type} {s s₁ : Scene S} {a : Acquire} {b : Birth} {tolerated : Nat} {r : Ref}
  {login : Option (String × String)}

theorem births_handedOut (p : Pool) (a : Acquire) (r : Ref) (t : Instant) :
    (p.handedOut a r t).births = p.births := births_withHandle p r fun _ => rfl

theorem births_rejected (p : Pool) (r : Ref) : (p.rejected r).births = p.births :=
  births_withHandle { p with tally := { p.tally with bad := p.tally.bad + 1 } } r fun _ => rfl

variable [Backend S]

/-- A search that starts in scene `s`, and puts up with `tolerated` bad candidates, opens a
connection and wraps it, and `b` is its birth. -/
inductive Wraps (login : Option (String × String)) : Nat → Scene S → Birth → Prop
  /-- The pool has room and no idle connection. -/
  | opens {tolerated : Nat} {s s₁ : Scene S} {r : Ref} (hroom : s.pool.HasRoom)
      (h : openNew login s = (.ok r, s₁)) :
      Wraps login tolerated s (s₁.pool.newborn r s₁.env.now)
  /-- The first candidate is bad, and the search goes on. -/
  | goesOn {tolerated : Nat} {s s₁ : Scene S} {r : Ref} {b : Birth} (ho : s.pool.closed = false)
      (h : nextCandidate login s = (.ok (some r), s₁)) (hbad : (isFit r s₁).1 = false)
      (hb : Wraps login tolerated (passed r s₁) b) : Wraps login (tolerated + 1) s b

/-- A closed pool opens nothing. -/
theorem Wraps.isOpen (h : Wraps login tolerated s b) : s.pool.closed = false := by
  cases h with
  | opens hroom => exact hroom.isOpen
  | goesOn ho => exact ho

/-- A connection is wrapped under its own number. -/
theorem Wraps.number_eq (h : Wraps login tolerated s b) : b.number = b.raw.id := by
  induction h with
  | opens => rfl
  | goesOn _ _ _ _ ih => exact ih

/-- Where there is room for a candidate it is a new one. -/
theorem nextCandidate_of_room (login : Option (String × String)) (h : s.pool.HasRoom) :
    nextCandidate login s = ((openNew login s).1.map some, (openNew login s).2) := by
  unfold nextCandidate
  rw [bind_run, look_run]
  simp only [h.idle, if_pos h.room]
  rfl

/-- The look for a candidate in scene `s` ended in scene `s₁` with a new connection, and `b` is its
birth. -/
def Finds (s : Scene S) (found : Except PoolError (Option Ref)) (s₁ : Scene S) (b : Birth) : Prop :=
  s.pool.HasRoom ∧ ∃ r, found = .ok (some r) ∧ b = s₁.pool.newborn r s₁.env.now

/-- The look for a candidate ended in scene `s₁` with a bad one, and of what the search wraps from
then on `b` is a birth. -/
def FindsLater (login : Option (String × String)) (tolerated : Nat)
    (found : Except PoolError (Option Ref)) (s₁ : Scene S) (b : Birth) : Prop :=
  ∃ r, found = .ok (some r) ∧ (isFit r s₁).1 = false ∧
    ∃ k, tolerated = k + 1 ∧ Wraps login k (passed r s₁) b

theorem nextCandidate_births (ho : s.pool.closed = false) :
    Ends (nextCandidate login) s fun found s₁ => ∀ b,
      b ∈ s₁.pool.births ↔ b ∈ s.pool.births ∨ Finds s found s₁ b := by
  let a : Acquire := { login, started := 0 }
  refine (nextCandidate_offers false a s ho).mono fun found s₁ h b => ?_
  cases h with
  | fails _ st =>
    refine st.births.trans (or_congr_right (iff_of_false ?_ ?_))
    · rintro ⟨-, _, _, -, hphase, -⟩
      cases hphase
    · rintro ⟨-, _, hfound, -⟩
      cases hfound
  | nothing =>
    refine (or_iff_left ?_).symm
    rintro ⟨-, _, hfound, -⟩
    cases hfound
  | @finds r _ _ st =>
    refine st.births.trans (or_congr_right ⟨?_, ?_⟩)
    · rintro ⟨hroom, _, _, _, hphase, hb⟩
      cases hphase
      exact ⟨hroom, r, rfl, hb⟩
    · rintro ⟨hroom, _, hfound, hb⟩
      cases hfound
      exact ⟨hroom, a, r, rfl, rfl, hb⟩

/-- What a search wraps, it wraps first or later. -/
theorem wraps_iff {found : Except PoolError (Option Ref)} (ho : s.pool.closed = false)
    (hnext : nextCandidate login s = (found, s₁)) :
    Wraps login tolerated s b ↔ Finds s found s₁ b ∨ FindsLater login tolerated found s₁ b := by
  constructor
  · intro h
    cases h with
    | @opens _ _ s₂ r hroom h =>
      rw [nextCandidate_of_room login hroom, h] at hnext
      cases hnext
      exact .inl ⟨hroom, r, rfl, rfl⟩
    | goesOn _ h hbad hb =>
      cases h.symm.trans hnext
      exact .inr ⟨_, rfl, hbad, _, rfl, hb⟩
  · rintro (⟨hroom, r, rfl, rfl⟩ | ⟨r, rfl, hbad, k, rfl, hb⟩)
    · rw [nextCandidate_of_room login hroom] at hnext
      rcases hopen : openNew login s with ⟨e | c, s₂⟩
      · rw [hopen] at hnext
        cases hnext
      · rw [hopen] at hnext
        cases hnext
        exact .opens hroom hopen
    · exact .goesOn ho hnext hbad hb

/-- After the look for a candidate connections are opened only if the candidate is bad. -/
theorem searchFrom_births {raised : Bool}
    (hon : ∀ r (s₁ : Scene S),
      Ends (searchOn raised tolerated { a with bad := a.bad + 1 }) (passed r s₁)
        fun _ s' => ∀ b, b ∈ s'.pool.births ↔ b ∈ (passed r s₁).pool.births ∨
          ∃ k, tolerated = k + 1 ∧ Wraps a.login k (passed r s₁) b)
    (found : Except PoolError (Option Ref)) (s : Scene S) :
    Ends (searchFrom raised tolerated a found) s fun _ s' => ∀ b,
      b ∈ s'.pool.births ↔ b ∈ s.pool.births ∨ FindsLater a.login tolerated found s b := by
  rcases found with e | _ | r
  · refine .pure fun b => (or_iff_left ?_).symm
    rintro ⟨_, hfound, -⟩
    cases hfound
  · refine (wait_unserved raised a s).mono fun _ s' h b => ?_
    rw [births_congr h.2]
    refine (or_iff_left ?_).symm
    rintro ⟨_, hfound, -⟩
    cases hfound
  · rw [Ends]
    simp only [searchFrom, bind_run]
    cases hfit : (isFit r s).1 with
    | true =>
      intro b
      have hbirths : (handOut a r (isFit r s).2).2.pool.births = s.pool.births := by
        rw [← (isFit_judges r s).1.pool]
        exact births_handedOut _ a r _
      show b ∈ (handOut a r (isFit r s).2).2.pool.births ↔ _
      rw [hbirths]
      refine (or_iff_left ?_).symm
      rintro ⟨_, hfound, hbad, -⟩
      cases hfound
      cases hfit.symm.trans hbad
    | false =>
      intro b
      have hbirths : (passed r s).pool.births = s.pool.births := by
        rw [(passed_chats r s).pool]
        exact births_rejected s.pool r
      refine (hon r s b).trans ?_
      rw [hbirths]
      refine or_congr_right ⟨fun hb => ⟨r, rfl, hfit, hb⟩, ?_⟩
      rintro ⟨_, hfound, -, hb⟩
      cases hfound
      exact hb

/-- What is left to show of a search is how it goes on after a rejected candidate. -/
theorem search_births_of {raised : Bool}
    (hon : ∀ r (s₁ : Scene S),
      Ends (searchOn raised tolerated { a with bad := a.bad + 1 }) (passed r s₁)
        fun _ s' => ∀ b, b ∈ s'.pool.births ↔ b ∈ (passed r s₁).pool.births ∨
          ∃ k, tolerated = k + 1 ∧ Wraps a.login k (passed r s₁) b) :
    Ends (search raised tolerated a) s fun _ s' =>
      ∀ b, b ∈ s'.pool.births ↔ b ∈ s.pool.births ∨ Wraps a.login tolerated s b := by
  cases hc : s.pool.closed with
  | true =>
    rw [Ends, search_closed raised tolerated a hc]
    intro b
    refine (or_iff_left fun h => ?_).symm
    exact Bool.false_ne_true (h.isOpen.symm.trans hc)
  | false =>
    rcases hnext : nextCandidate a.login s with ⟨found, s₁⟩
    have hbirths : Ends (nextCandidate a.login) s _ := nextCandidate_births hc
    have hrest := searchFrom_births hon found s₁
    rw [Ends, hnext] at hbirths
    rw [Ends, search_open raised tolerated a hc, hnext]
    intro b
    rw [wraps_iff hc hnext, ← or_assoc, ← hbirths b]
    exact hrest b

/-- A search adds the births of the connections that it wraps. -/
theorem search_births (raised : Bool) (tolerated : Nat) (a : Acquire) (s : Scene S) :
    Ends (search raised tolerated a) s fun _ s' =>
      ∀ b, b ∈ s'.pool.births ↔ b ∈ s.pool.births ∨ Wraps a.login tolerated s b := by
  induction tolerated generalizing a s with
  | zero =>
    refine search_births_of fun r s₁ => .bind <| .note <| .pure fun b => ?_
    exact (or_iff_left fun ⟨_, hk, _⟩ => nomatch hk).symm
  | succ tolerated ih =>
    refine search_births_of fun r s₁ => (ih { a with bad := a.bad + 1 } _).mono fun _ s' h b => ?_
    refine (h b).trans (or_congr_right ⟨fun hb => ⟨tolerated, rfl, hb⟩, ?_⟩)
    rintro ⟨k, hk, hb⟩
    cases hk
    exact hb

theorem serve_births (raised : Bool) (a : Acquire) (s : Scene S) :
    Ends (serve raised a) s fun _ s' => ∀ b, b ∈ s'.pool.births ↔
      b ∈ s.pool.births ∨ Wraps a.login (s.pool.settings.badLimit - a.bad) s b :=
  .bind <| .look <| search_births raised _ a s

/-- So does the first turn of an acquire. -/
theorem begin_births (raised : Bool) (login : Option (String × String)) (s : Scene S) :
    Ends (begin raised login) s fun _ s' => ∀ b, b ∈ s'.pool.births ↔
      b ∈ s.pool.births ∨ Wraps login s.pool.settings.badLimit s b :=
  .bind <| .now <| serve_births raised _ s

/-- So does a later turn, unless the acquire is interrupted when it is woken. -/
theorem resume_births (raised : Bool) (since : Instant) (a : Acquire) (s : Scene S) :
    Ends (resume raised since a) s fun _ s' => ∀ b, b ∈ s'.pool.births ↔
      b ∈ s.pool.births ∨ raised = false ∧ Wraps a.login (s.pool.settings.badLimit - a.bad)
        { s with pool := s.pool.roused since s.env.now } b := by
  refine .bind <| .now <| .bind <| .count ?_
  cases raised with
  | true => exact .bind <| .note <| .pure fun b => (or_iff_left fun h => nomatch h.1).symm
  | false =>
    refine (serve_births false a _).mono fun _ s' h b => (h b).trans (or_congr_right ?_)
    exact (and_iff_right rfl).symm

end Pool

end ConnPool
