import ConnPool.Proofs.Pool.Owned

/-!
# Logins

A connection that was opened for the login of an acquire is not to serve another login. The pool
tells by the endpoint of a handle whether a returned connection is kept, and a connection that is
handed out again is bound to the endpoint of that acquire. So the endpoint tells the login that the
connection was opened for only as long as the connection is under its first handle.

`Isolated` follows the login from the start: a connection in the lists of the pool was opened for
the target, or is still under its first handle, or was taken over from its first handle. Only in the
last case can it come into the idle list with a login that is not that of the target.
-/

namespace ConnPool

open Pool

namespace Pool

/-! ## First handles -/

/-- The handle is the first one of its connection. -/
def IsFirst (p : Pool) (s : Ref) : Prop :=
  s < p.handles.length ∧ ∀ t < s, p.connOf t ≠ p.connOf s

/-- The first handle of the connection of a handle. -/
def firstOf (p : Pool) (r : Ref) : Ref := p.handles.findIdx (·.raw.conn == p.connOf r)

/-- The connection was taken over from its first handle. -/
def ReclaimedFirst (p : Pool) (conn : Nat) : Prop :=
  ∃ s, p.IsFirst s ∧ p.connOf s = conn ∧ (p.handle s).valid = false ∧
    (p.handle s).data.state = .reclaimed

theorem isFirst_congr {p p' : Pool} (hlen : p'.handles.length = p.handles.length)
    (hraw : ∀ s, (p'.handle s).raw = (p.handle s).raw) (s : Ref) : p'.IsFirst s ↔ p.IsFirst s := by
  simp only [IsFirst, connOf, hlen, hraw]

/-- It stays so as long as nothing is changed about handles that are gone. -/
theorem ReclaimedFirst.mono {p p' : Pool} {conn : Nat} (h : p.ReclaimedFirst conn)
    (hlen : p'.handles.length = p.handles.length)
    (hraw : ∀ s, (p'.handle s).raw = (p.handle s).raw)
    (hgone : ∀ s, (p.handle s).valid = false → p'.handle s = p.handle s) :
    p'.ReclaimedFirst conn := by
  obtain ⟨t, hfirst, hconn, hvalid, hstate⟩ := h
  refine ⟨t, (isFirst_congr hlen hraw t).2 hfirst, ?_, ?_, ?_⟩
  · rw [connOf, hraw]
    exact hconn
  · rw [hgone t hvalid]
    exact hvalid
  · rw [hgone t hvalid]
    exact hstate

theorem ReclaimedFirst.retire {p q : Pool} {conn : Nat} {r : Ref} {state : HandleState}
    (h : p.ReclaimedFirst conn) (hq : q.handles = p.handles) (hv : (p.handle r).valid = true) :
    (q.withHandle r (·.retire state)).ReclaimedFirst conn := by
  refine h.mono (by rw [length_withHandle, hq]) (fun s => ?_) (fun s hs => ?_)
  · rw [raw_retire, handle_congr hq]
  · have hne : s ≠ r := fun heq => Bool.false_ne_true (hs.symm.trans (heq ▸ hv))
    rw [handle_withHandle_ne _ _ hne, handle_congr hq]

theorem isFirst_add_old {p : Pool} {x : Handle} {s : Ref} (hs : s < p.handles.length) :
    (p.add x).IsFirst s ↔ p.IsFirst s := by
  have hold : ∀ t ≤ s, (p.add x).connOf t = p.connOf t := fun t ht =>
    congrArg (·.raw.conn) (handle_add_ne p x (Nat.ne_of_lt (Nat.lt_of_le_of_lt ht hs)))
  simp only [IsFirst, length_add, hold s (Nat.le_refl _), hs, Nat.lt_succ_of_lt hs, true_and]
  exact forall₂_congr fun t ht => by rw [hold t (Nat.le_of_lt ht)]

theorem isFirst_add_new {p : Pool} {x : Handle} :
    (p.add x).IsFirst p.handles.length ↔ ∀ t < p.handles.length, p.connOf t ≠ x.raw.conn := by
  have hold : ∀ t < p.handles.length, (p.add x).connOf t = p.connOf t := fun t ht =>
    congrArg (·.raw.conn) (handle_add_ne p x (Nat.ne_of_lt ht))
  have hnew : (p.add x).connOf p.handles.length = x.raw.conn :=
    congrArg (·.raw.conn) (handle_add_self p x)
  simp only [IsFirst, length_add, hnew, Nat.lt_succ_self, true_and]
  exact forall₂_congr fun t ht => by rw [hold t ht]

theorem firstOf_spec {p : Pool} {r : Ref} (hr : r < p.handles.length) :
    p.IsFirst (p.firstOf r) ∧ p.connOf (p.firstOf r) = p.connOf r := by
  have hget : ∀ t (ht : t < p.handles.length), p.connOf t = p.handles[t].raw.conn := fun t ht =>
    congrArg (·.raw.conn) (handle_eq_getElem ht)
  have hmem : ∃ h ∈ p.handles, (h.raw.conn == p.connOf r) = true :=
    ⟨p.handles[r], List.getElem_mem hr, by rw [hget r hr]; exact beq_self_eq_true _⟩
  have hlt : p.firstOf r < p.handles.length := List.findIdx_lt_length_of_exists hmem
  have hconn : p.connOf (p.firstOf r) = p.connOf r := by
    rw [hget _ hlt]
    exact eq_of_beq (List.findIdx_getElem (w := hlt))
  refine ⟨⟨hlt, fun t ht heq => ?_⟩, hconn⟩
  have htlt := Nat.lt_trans ht hlt
  rw [hconn, hget t htlt] at heq
  exact absurd (beq_iff_eq.2 heq) (by simpa using List.not_of_lt_findIdx ht)

theorem IsFirst.eq {p : Pool} {s t : Ref} (hs : p.IsFirst s) (ht : p.IsFirst t)
    (h : p.connOf s = p.connOf t) : s = t := by
  rcases Nat.lt_trichotomy s t with hlt | heq | hgt
  · exact absurd h (ht.2 s hlt)
  · exact heq
  · exact absurd h.symm (hs.2 t hgt)

end Pool

/-! ## The invariant -/

/-- What the pool `n` knows of the logins of its connections. -/
structure Isolated (n : Nat) (e : Env) (p : Pool) (hand : Option (Acquire × Ref)) : Prop where
  expected : p.expected = p.target.endpoint
  /-- The backend opened each connection for the target that is noted with it. -/
  opened : ∀ r ∈ p.live hand,
    ⟨n, p.connOf r, .connect (p.handle r).raw.target (.ok ())⟩ ∈ e.calls
  url : ∀ r ∈ p.live hand, (p.handle r).raw.target.url = p.target.url
  origin : ∀ r ∈ p.live hand, (p.handle r).raw.target.endpoint = p.target.endpoint ∨
    p.IsFirst r ∨ p.ReclaimedFirst (p.connOf r)
  /-- A first handle is bound to the endpoint that its connection was opened for. -/
  first : ∀ s, p.IsFirst s → (p.handle s).data.endpoint = (p.handle s).raw.target.endpoint
  idle : ∀ r ∈ p.idle, ¬p.IsFirst r
  /-- A new connection in the hand of an acquire was opened for that acquire. -/
  hand : ∀ a r, hand = some (a, r) → p.IsFirst r →
    (p.handle r).raw.target = p.target.withLogin a.login

namespace Isolated

variable {n : Nat} {e e' : Env} {p p' : Pool} {hand hand' : Option (Acquire × Ref)} {r : Ref}

theorem empty (n : Nat) (e : Env) (settings : Settings) (target : Target) :
    Isolated n e (.empty settings target) none where
  expected := rfl
  opened _ hr := absurd hr List.not_mem_nil
  url _ hr := absurd hr List.not_mem_nil
  origin _ hr := absurd hr List.not_mem_nil
  first _ hs := absurd hs.1 (Nat.not_lt_zero _)
  idle _ hr := absurd hr List.not_mem_nil
  hand _ _ h := nomatch h

/-- Connections may leave the lists or move between them, as long as nothing is changed about those
that are gone and about the endpoints of first handles. -/
theorem lessen (h : Isolated n e p hand) (ht : p'.target = p.target) (hx : p'.expected = p.expected)
    (hlen : p'.handles.length = p.handles.length)
    (hraw : ∀ s, (p'.handle s).raw = (p.handle s).raw)
    (hgone : ∀ s, (p.handle s).valid = false → p'.handle s = p.handle s)
    (hfirst : ∀ s, p.IsFirst s → (p'.handle s).data.endpoint = (p.handle s).data.endpoint)
    (hlive : ∀ s ∈ p'.live hand', s ∈ p.live hand) (hidle : ∀ s ∈ p'.idle, s ∈ p.idle)
    (hhand : ∀ a s, hand' = some (a, s) → hand = some (a, s) ∨ s ∈ p.idle)
    (hcalls : ∀ c ∈ e.calls, c ∈ e'.calls) : Isolated n e' p' hand' where
  expected := by rw [hx, ht]; exact h.expected
  opened s hs := by
    simp only [connOf, hraw]
    exact hcalls _ (h.opened s (hlive s hs))
  url s hs := by rw [hraw, ht]; exact h.url s (hlive s hs)
  origin s hs := by
    rw [hraw, ht, connOf, hraw, isFirst_congr hlen hraw]
    exact (h.origin s (hlive s hs)).imp_right (.imp_right fun hr => hr.mono hlen hraw hgone)
  first s hs := by
    rw [isFirst_congr hlen hraw] at hs
    rw [hraw, hfirst s hs]
    exact h.first s hs
  idle s hs := by
    rw [isFirst_congr hlen hraw]
    exact h.idle s (hidle s hs)
  hand a s hs hf := by
    rw [isFirst_congr hlen hraw] at hf
    rw [hraw, ht]
    rcases hhand a s hs with hs | hs
    · exact h.hand a s hs hf
    · exact absurd hf (h.idle s hs)

/-- A valid handle may be retired, as the connections of some others leave the lists. -/
theorem retire {q : Pool} {state : HandleState} (h : Isolated n e p hand)
    (hv : (p.handle r).valid = true) (hqt : q.target = p.target) (hqx : q.expected = p.expected)
    (hqh : q.handles = p.handles) (hlive : ∀ s ∈ q.live none, s ∈ p.live hand)
    (hidle : ∀ s ∈ q.idle, s ∈ p.idle) (hcalls : ∀ c ∈ e.calls, c ∈ e'.calls) :
    Isolated n e' (q.withHandle r (·.retire state)) none := by
  have hh : ∀ s, q.handle s = p.handle s := handle_congr hqh
  refine h.lessen hqt hqx (by rw [length_withHandle, hqh]) ?_ ?_ ?_ hlive hidle
    (fun _ _ hs => nomatch hs) hcalls
  · intro s
    rw [raw_retire, hh]
  · intro s hs
    have hne : s ≠ r := fun heq => Bool.false_ne_true (hs.symm.trans (heq ▸ hv))
    rw [handle_withHandle_ne _ _ hne, hh]
  · intro s hs
    rw [← hh]
    exact part_withHandle (·.data.endpoint) q r s (f := (·.retire state)) fun _ => rfl

/-- A handle may be added: the first one of a new connection, or another one of a connection that
was opened for the target or taken over from its first handle. -/
theorem enter {x : Handle} (h : Isolated n e p none) (ht : p'.target = p.target)
    (hx : p'.expected = p.expected) (htable : p'.handles = (p.add x).handles)
    (hopened : ⟨n, x.raw.conn, .connect x.raw.target (.ok ())⟩ ∈ e.calls)
    (hurl : x.raw.target.url = p.target.url)
    (horigin : x.raw.target.endpoint = p.target.endpoint ∨
      (p.add x).IsFirst p.handles.length ∨ p.ReclaimedFirst x.raw.conn)
    (hfirst : (p.add x).IsFirst p.handles.length → x.data.endpoint = x.raw.target.endpoint)
    (hlive : ∀ s ∈ p'.live hand', s = p.handles.length ∨ s ∈ p.live none ∧ s < p.handles.length)
    (hidle : ∀ s ∈ p'.idle,
      s = p.handles.length ∧ ¬(p.add x).IsFirst s ∨ s ∈ p.idle ∧ s < p.handles.length)
    (hhand : ∀ a s, hand' = some (a, s) → (p.add x).IsFirst s →
      s = p.handles.length ∧ x.raw.target = p.target.withLogin a.login) :
    Isolated n e p' hand' := by
  have hh : ∀ s, p'.handle s = (p.add x).handle s := handle_congr htable
  have hlen : p'.handles.length = (p.add x).handles.length := congrArg _ htable
  have hf : ∀ s, p'.IsFirst s ↔ (p.add x).IsFirst s := isFirst_congr hlen fun s => by rw [hh]
  have hold : ∀ s < p.handles.length, p'.handle s = p.handle s := fun s hs =>
    (hh s).trans (handle_add_ne p x (Nat.ne_of_lt hs))
  have hnew : p'.handle p.handles.length = x := (hh _).trans (handle_add_self p x)
  have hreclaimed : ∀ conn, p.ReclaimedFirst conn → p'.ReclaimedFirst conn := by
    rintro conn ⟨t, htf, hconn, hvalid, hstate⟩
    have htlt := hold t htf.1
    exact ⟨t, (hf t).2 ((isFirst_add_old htf.1).2 htf), by rw [connOf, htlt]; exact hconn,
      by rw [htlt]; exact hvalid, by rw [htlt]; exact hstate⟩
  constructor
  case expected =>
    rw [hx, ht]
    exact h.expected
  case opened =>
    intro s hs
    rcases hlive s hs with rfl | ⟨hs, hlt⟩
    · rw [connOf, hnew]
      exact hopened
    · rw [connOf, hold s hlt]
      exact h.opened s hs
  case url =>
    intro s hs
    rcases hlive s hs with rfl | ⟨hs, hlt⟩
    · rw [hnew, ht]
      exact hurl
    · rw [hold s hlt, ht]
      exact h.url s hs
  case origin =>
    intro s hs
    rcases hlive s hs with rfl | ⟨hs, hlt⟩
    · rw [connOf, hnew, ht, hf]
      exact horigin.imp_right (.imp_right (hreclaimed _))
    · rw [connOf, hold s hlt, ht, hf, isFirst_add_old hlt]
      exact (h.origin s hs).imp_right (.imp_right (hreclaimed _))
  case first =>
    intro s hs
    rw [hf] at hs
    have hslt := hs.1
    rw [length_add] at hslt
    rcases Nat.lt_succ_iff_lt_or_eq.1 hslt with hlt | rfl
    · rw [hold s hlt]
      exact h.first s ((isFirst_add_old hlt).1 hs)
    · rw [hnew]
      exact hfirst hs
  case idle =>
    intro s hs
    rw [hf]
    rcases hidle s hs with ⟨-, hs⟩ | ⟨hs, hlt⟩
    · exact hs
    · rw [isFirst_add_old hlt]
      exact h.idle s hs
  case hand =>
    intro a s hs hs'
    rw [hf] at hs'
    obtain ⟨rfl, htarget⟩ := hhand a s hs hs'
    rw [hnew, ht]
    exact htarget

/-- A connection may pass on to a new handle, if it was opened for the target or is known by then to
have been taken over from its first handle. -/
theorem passOn {q : Pool} {state : HandleState} {data : Metadata} (ho : Owned e p (p.live none))
    (h : Isolated n e p none) (hr : r ∈ p.active) (hqt : q.target = p.target)
    (hqx : q.expected = p.expected) (hqh : q.handles = p.handles)
    (hqlive : ∀ s ∈ q.live none, s ∈ p.live none) (hqidle : q.idle = p.idle)
    (horigin : (p.handle r).raw.target.endpoint = p.target.endpoint ∨
      (q.withHandle r (·.retire state)).ReclaimedFirst (p.connOf r))
    (ht : p'.target = p.target) (hx : p'.expected = p.expected)
    (htable : p'.handles = (q.passOn r state data).handles)
    (hlive : ∀ s ∈ p'.live hand', s = p.handles.length ∨ s ∈ q.live none)
    (hidle : ∀ s ∈ p'.idle, s = p.handles.length ∨ s ∈ p.idle)
    (hhand : ∀ a s, hand' = some (a, s) → s = p.handles.length)
    (hcalls : ∀ c ∈ e.calls, c ∈ e'.calls) : Isolated n e' p' hand' := by
  have hrlive : r ∈ p.live none := mem_live_of_active hr
  have hh : ∀ s, q.handle s = p.handle s := handle_congr hqh
  have hlen : (q.withHandle r (·.retire state)).handles.length = p.handles.length := by
    rw [length_withHandle, hqh]
  have hraw : ∀ s, ((q.withHandle r (·.retire state)).handle s).raw = (p.handle s).raw := by
    intro s
    rw [raw_retire, hh]
  have hless : Isolated n e' (q.withHandle r (·.retire state)) none :=
    h.retire ((ho.valid r).2 hrlive) hqt hqx hqh hqlive (fun s hs => hqidle ▸ hs) hcalls
  have hold : ¬((q.withHandle r (·.retire state)).add ⟨(q.handle r).raw, true, data⟩).IsFirst
      p.handles.length := by
    intro hfirst
    rw [← hlen] at hfirst
    refine isFirst_add_new.1 hfirst r (hlen ▸ ho.lt hrlive) ?_
    rw [connOf, hraw, hh]
  refine hless.enter (ht.trans hqt.symm) (hx.trans hqx.symm) htable ?_ ?_ ?_ ?_ ?_ ?_ ?_
  · rw [hh]
    exact hcalls _ (h.opened r hrlive)
  · rw [hh, h.url r hrlive]
    exact congrArg _ hqt.symm
  · rw [hh]
    exact horigin.imp (·.trans (congrArg _ hqt.symm)) .inr
  · rw [hlen]
    exact fun hfirst => absurd hfirst hold
  · intro s hs
    rw [hlen]
    exact (hlive s hs).imp_right fun hs => ⟨hs, ho.lt (hqlive s hs)⟩
  · intro s hs
    rw [hlen]
    rcases hidle s hs with rfl | hs
    · exact .inl ⟨rfl, hold⟩
    · exact .inr ⟨hqidle.symm ▸ hs, ho.lt (mem_live_of_idle hs)⟩
  · intro a s hs hfirst
    rw [hhand a s hs] at hfirst
    exact absurd hfirst hold

theorem emptied (h : Isolated n e p none) (hp : p'.handles = p.handles) :
    Isolated n e' p'.emptied none := by
  have hnone : p'.emptied.live none = [] := by simp [live]
  have hraw : ∀ s, (p'.emptied.handle s).raw = (p.handle s).raw := by
    intro s
    rw [raw_emptied, handle_congr hp]
  have hlen : p'.emptied.handles.length = p.handles.length := by rw [length_emptied, hp]
  constructor
  case first =>
    intro s hs
    rw [isFirst_congr hlen hraw] at hs
    rw [hraw, endpoint_emptied, handle_congr hp]
    exact h.first s hs
  case expected | idle | hand => simp
  case opened | url | origin => simp [hnone]

theorem seek {raised : Bool} {g g' : Stage} (st : Seek n raised g g')
    (ho : Owned g.env g.pool (g.pool.live g.phase.hand))
    (h : Isolated n g.env g.pool g.phase.hand) : Isolated n g'.env g'.pool g'.phase.hand := by
  cases st with
  | rouse | stop | shut | interrupted | timeOut | sleep =>
    exact h.lessen rfl rfl rfl (fun _ => rfl) (fun _ _ => rfl) (fun _ _ => rfl) (fun _ hs => hs)
      (fun _ hs => hs) (fun _ _ hs => nomatch hs) (fun _ hc => hc)
  | refused hroom he =>
    exact h.lessen rfl rfl rfl (fun _ => rfl) (fun _ _ => rfl) (fun _ _ => rfl) (fun _ hs => hs)
      (fun _ hs => hs) (fun _ _ hs => nomatch hs) (fun _ hc => he.grows.calls.subset hc)
  | @takeIdle e p a r rest hopen hi =>
    have hmem : ∀ s ∈ r :: rest, s ∈ p.idle := fun s hs => hi ▸ hs
    refine h.lessen rfl rfl rfl (fun _ => rfl) (fun _ _ => rfl) (fun _ _ => rfl) (fun s hs => ?_)
      (fun s hs => hmem s (List.mem_cons_of_mem _ hs)) (fun b s hs => .inr ?_) (fun _ hc => hc)
    · rcases mem_live_some.1 hs with rfl | hs | hs
      · exact mem_live_of_idle (hmem s (List.mem_cons_self ..))
      · exact mem_live_of_active hs
      · exact mem_live_of_idle (hmem s (List.mem_cons_of_mem _ hs))
    · cases hs
      exact hmem r (List.mem_cons_self ..)
  | @openNew e p a e' hroom he =>
    have hmore : Isolated n (e'.wrapped.note (.opened e'.nextRaw))
        { p with attempts := p.attempts + 1 } none :=
      h.lessen rfl rfl rfl (fun _ => rfl) (fun _ _ => rfl) (fun _ _ => rfl) (fun _ hs => hs)
        (fun _ hs => hs) (fun _ _ hs => nomatch hs) (fun _ hc => he.grows.calls.subset hc)
    have hfresh : ∀ t < p.handles.length, p.connOf t ≠ p.attempts + 1 := fun t ht =>
      Nat.ne_of_lt (Nat.lt_succ_of_le (ho.conn_le t ht))
    refine hmore.enter rfl rfl rfl he.mem_calls (Target.url_withLogin ..) (.inr (.inl ?_))
      (fun _ => rfl) (fun s hs => ?_) (fun s hs => .inr ⟨hs, ho.lt (mem_live_of_idle hs)⟩)
      fun b s hs _ => ?_
    · exact isFirst_add_new.2 hfresh
    · exact (mem_live_some.1 hs).imp_right fun hs =>
        ⟨mem_live_none.2 hs, ho.lt (mem_live_none.2 hs)⟩
    · cases hs
      exact ⟨rfl, rfl⟩
  | @handOut e p a r e' hv he =>
    have hr : r ∈ p.live (some (a, r)) := mem_live_some.2 (.inl rfl)
    refine h.lessen rfl rfl (length_withHandle ..)
      (fun s => part_withHandle Handle.raw p r s fun _ => rfl) (fun s hs => ?_) (fun s hs => ?_)
      (fun s hs => ?_) (fun _ hs => hs) (fun _ _ hs => nomatch hs) fun _ hc => he.mem_calls hc
    · exact handle_withHandle_ne p _ fun heq => Bool.false_ne_true (hs.symm.trans (heq ▸ hv))
    · by_cases hsr : s = r
      · subst hsr
        refine (congrArg (·.data.endpoint) (handle_withHandle_self _ hs.1)).trans ?_
        rw [h.first s hs, h.hand a s rfl hs]
        rfl
      · exact congrArg (·.data.endpoint) (handle_withHandle_ne p _ hsr)
    · rcases mem_live_none.1 hs with hs | hs
      · rcases List.mem_append.1 hs with hs | hs
        · exact mem_live_of_active hs
        · exact List.mem_singleton.1 hs ▸ hr
      · exact mem_live_of_idle hs
  | @reject e p a r e' hb he | @giveUp e p a r e' hb he =>
    have hv : (p.handle r).valid = true := (ho.valid r).2 (mem_live_some.2 (.inl rfl))
    exact h.retire hv rfl rfl rfl (fun s hs => mem_live_some.2 (.inr (mem_live_none.1 hs)))
      (fun _ hs => hs) fun _ hc => he.mem_calls hc
  | @takeOver e p a r rest held e' hopen hi hf ha hh ht he =>
    have hr : r ∈ p.active := ha ▸ List.mem_cons_self ..
    have hlive : ∀ s ∈ Pool.live { p with active := rest } none, s ∈ p.live none := fun s hs =>
      mem_live_none.2 ((mem_live_none.1 hs).imp_left fun hs => ha ▸ List.mem_cons_of_mem _ hs)
    refine passOn ho h hr (q := { p with active := rest }) rfl rfl rfl hlive rfl ?_ rfl rfl rfl
      (fun s hs => (mem_live_some.1 hs).imp_right mem_live_none.2) (fun _ hs => .inr hs)
      (fun b s hs => ?_) fun _ hc => he.mem_calls hc
    · have hself :
          (({ p with active := rest } : Pool).withHandle r (·.retire .reclaimed)).handle r =
            (p.handle r).retire .reclaimed :=
        handle_withHandle_self _ (ho.lt (mem_live_of_active hr))
      rcases h.origin r (mem_live_of_active hr) with htarget | hfirst | hreclaimed
      · exact .inl htarget
      · refine .inr ⟨r, ?_, ?_, ?_, ?_⟩
        · exact (isFirst_congr (length_withHandle ..) (fun s => raw_retire _ r s _) r).2 hfirst
        · rw [connOf_withHandle_retire]
          rfl
        · rw [hself]
          rfl
        · rw [hself]
          rfl
      · exact .inr (hreclaimed.retire (q := { p with active := rest }) rfl
          ((ho.valid r).2 (mem_live_of_active hr)))
    · cases hs
      rfl

theorem yield {who : Handback} (y : Yield n who e p e' p') (ho : Owned e p (p.live none))
    (hidle : ∀ r ∈ who.ref?, r ∉ p.idle) (h : Isolated n e p none) : Isolated n e' p' none := by
  have hless : ∀ r, ∀ s ∈ (p.checkedIn r).live none, s ∈ p.live none := fun r s hs =>
    mem_live_none.2 ((mem_live_none.1 hs).imp_left List.mem_of_mem_erase)
  cases y with
  | @spurn _ _ r _ hv he =>
    exact h.lessen rfl rfl rfl (fun _ => rfl) (fun _ _ => rfl) (fun _ _ => rfl) (hless r)
      (fun _ hs => hs) (fun _ _ hs => nomatch hs) fun _ hc => he.mem_calls hc
  | @letGo _ _ r hn =>
    exact h.lessen rfl rfl rfl (fun _ => rfl) (fun _ _ => rfl) (fun _ _ => rfl) (hless r)
      (fun _ hs => hs) (fun _ _ hs => nomatch hs) fun _ hc => hc
  | @discard _ _ r _ hv he =>
    exact h.retire (q := p.spurned r) hv rfl rfl rfl (hless r) (fun _ hs => hs)
      fun _ hc => he.mem_calls hc
  | @close _ _ r t _ hv ht he =>
    exact h.retire (q := p.timed r t) hv rfl rfl rfl (hless r) (fun _ hs => hs)
      fun _ hc => he.mem_calls hc
  | @detach _ _ r ha hv =>
    exact h.retire (q := p.checkedIn r) hv rfl rfl rfl (hless r) (fun _ hs => hs) fun _ hc => hc
  | @store _ _ r t e₁ hv hk ht he =>
    have hr : r ∈ p.active := ho.mem_active hv (hidle r rfl)
    refine passOn ho h hr (q := p.timed r t) rfl rfl rfl (hless r) rfl ?_ rfl rfl rfl
      (fun s hs => ?_) (fun s hs => ?_) (fun _ _ hs => nomatch hs) fun _ hc => he.mem_calls hc
    · have hbound : (p.handle r).data.endpoint = p.target.endpoint := by
        simp only [keeps, Bool.and_eq_true, beq_iff_eq] at hk
        exact hk.2.trans h.expected
      rcases h.origin r (mem_live_of_active hr) with htarget | hfirst | hreclaimed
      · exact .inl htarget
      · exact .inl ((h.first r hfirst).symm.trans hbound)
      · exact .inr (hreclaimed.retire (q := p.timed r t) rfl hv)
    · rcases mem_live_none.1 hs with hs | hs
      · exact .inr (mem_live_of_active hs)
      · rcases List.mem_append.1 hs with hs | hs
        · exact .inr (mem_live_of_idle hs)
        · exact .inl (List.mem_singleton.1 hs)
    · rcases List.mem_append.1 hs with hs | hs
      · exact .inr hs
      · exact .inl (List.mem_singleton.1 hs)
  | drain he => exact h.emptied rfl
  | change hc he => exact h.emptied rfl
  | shutDown hopen he => exact h.emptied rfl

end Isolated

end ConnPool
