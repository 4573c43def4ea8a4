import ConnPool.Proofs.Pool.Owned

/-!
# Custody

A connection that the backend opened for a pool is in the custody of the pool until the pool lets go
of it, and nobody else closes it. There are many places where a pool lets go: a connection that
cannot be set to its defaults, a bad candidate, a bad return, a full idle list, a drain.

`Custody` says of one connection that it does not get lost from one moment to a later one: it is
still there, or it was seen off in between. It holds of every step of a turn (`Custody.seek`), and
of every operation except that a caller may keep the connection (`Custody.yield`). What holds from
one moment to the next holds from the first to the last (`Custody.trans`).
-/

namespace ConnPool

open Pool

/-! ## The names of connections -/

/-- The connections that a pool was asked to open are numbered in turn. -/
def Numbered (n : Nat) (e : Env) (attempts : Nat) : Prop :=
  (e.connectsOf n).map (·.conn) = (List.range' 1 attempts).reverse

/-- The backend opened the connection for pool `n`. -/
def Env.Opened (e : Env) (n conn : Nat) : Prop :=
  ∃ target, ⟨n, conn, .connect target (.ok ())⟩ ∈ e.calls

/-- Whether a call is one to open the connection for pool `n`, with success. -/
def Call.opens (n conn : Nat) (c : Call) : Bool :=
  match c with
  | ⟨site, name, .connect _ (.ok ())⟩ => site == n && name == conn
  | _ => false

theorem Call.opens_iff {n conn : Nat} {c : Call} :
    c.opens n conn = true ↔ ∃ target, ⟨n, conn, .connect target (.ok ())⟩ = c := by
  constructor
  · intro h
    unfold opens at h
    split at h
    · next site name target =>
      obtain ⟨hsite, hname⟩ := Bool.and_eq_true_iff.1 h
      exact ⟨target, by rw [eq_of_beq hsite, eq_of_beq hname]⟩
    · exact absurd h Bool.false_ne_true
  · rintro ⟨target, rfl⟩
    simp [opens]

instance (e : Env) (n conn : Nat) : Decidable (e.Opened n conn) :=
  decidable_of_iff (e.calls.any (·.opens n conn) = true) <| by
    simp only [List.any_eq_true, Call.opens_iff, Env.Opened]
    constructor
    · rintro ⟨c, hc, target, rfl⟩
      exact ⟨target, hc⟩
    · rintro ⟨target, hc⟩
      exact ⟨_, hc, target, rfl⟩

namespace Env

variable {n conn : Nat} {e e' : Env}

theorem opened_iff :
    e.Opened n conn ↔ ∃ target, ⟨n, conn, .connect target (.ok ())⟩ ∈ e.connectsOf n :=
  exists_congr fun _ => by simp [connectsOf, connects, Deed.isConnect]

theorem Opened.grows (h : e.Opened n conn) (he : e.Grows e') : e'.Opened n conn :=
  h.imp fun _ hc => he.calls.subset hc

theorem opened_congr (h : e'.connectsOf n = e.connectsOf n) :
    e'.Opened n conn ↔ e.Opened n conn := by
  rw [opened_iff, opened_iff, h]

theorem connectsOf_congr (h : e'.connects = e.connects) : e'.connectsOf n = e.connectsOf n :=
  congrArg (·.filter (·.site == n)) h

theorem connectsOf_cons {c : Call} (hc : c.site = n) (h : e'.connects = c :: e.connects) :
    e'.connectsOf n = c :: e.connectsOf n := by
  rw [connectsOf, h, List.filter_cons_of_pos (by simp [hc])]
  rfl

theorem Opens.opened_iff {c : Nat} {target : Target} {outcome : Except Fault Unit}
    (h : e.Opens n c target outcome e') :
    e'.Opened n conn ↔ e.Opened n conn ∨ conn = c ∧ outcome = .ok () := by
  rw [Env.opened_iff, Env.opened_iff, connectsOf_cons rfl h.connects]
  constructor
  · rintro ⟨t, ht⟩
    rcases List.mem_cons.1 ht with heq | ht
    · cases heq
      exact .inr ⟨rfl, rfl⟩
    · exact .inl ⟨t, ht⟩
  · rintro (⟨t, ht⟩ | ⟨rfl, rfl⟩)
    · exact ⟨t, List.mem_cons_of_mem _ ht⟩
    · exact ⟨target, List.mem_cons_self ..⟩

end Env

namespace Numbered

variable {n conn attempts : Nat} {e e' : Env}

theorem congr (h : Numbered n e attempts) (he : e'.connectsOf n = e.connectsOf n) :
    Numbered n e' attempts := by
  rw [Numbered, he]
  exact h

theorem le (h : Numbered n e attempts) (hc : e.Opened n conn) : conn ≤ attempts := by
  obtain ⟨target, hc⟩ := Env.opened_iff.1 hc
  have hmem : conn ∈ (e.connectsOf n).map (·.conn) := List.mem_map.2 ⟨_, hc, rfl⟩
  rw [h, List.mem_reverse, List.mem_range'_1] at hmem
  omega

theorem seek {raised : Bool} {g g' : Stage} (st : Seek n raised g g')
    (h : Numbered n g.env g.pool.attempts) : Numbered n g'.env g'.pool.attempts := by
  rcases st.connects with ⟨he, ha⟩ | ⟨⟨target, outcome, he⟩, ha⟩
  · rw [ha]
    exact h.congr (Env.connectsOf_congr he)
  · rw [Numbered, Env.connectsOf_cons rfl he, ha, List.map_cons, List.range'_1_concat,
      List.reverse_concat, Nat.add_comm 1]
    exact congrArg _ h

end Numbered

/-- The turns of the acquires of one pool open no connection for another. -/
theorem Seeks.connectsOf_ne {m n : Nat} {raised : Bool} {g g' : Stage} (hs : Seeks m raised g g')
    (hne : m ≠ n) : g'.env.connectsOf n = g.env.connectsOf n := by
  induction hs with
  | refl => rfl
  | tail _ st ih =>
    refine Eq.trans ?_ ih
    rcases st.connects with ⟨he, -⟩ | ⟨⟨target, outcome, he⟩, -⟩
    · exact Env.connectsOf_congr he
    · rw [Env.connectsOf, he, List.filter_cons_of_neg (by simpa using hne)]
      rfl

theorem Seeks.numbered {n : Nat} {raised : Bool} {g g' : Stage} (hs : Seeks n raised g g')
    (h : Numbered n g.env g.pool.attempts) : Numbered n g'.env g'.pool.attempts := by
  induction hs with
  | refl => exact h
  | tail _ st ih => exact ih.seek st

/-! ## Connections in the hands of a pool -/

/-- The connections in the lists of a pool, and that of the candidate in the hand of an acquire. -/
def Pool.conns (p : Pool) (hand : Option (Acquire × Ref)) : List Nat := (p.live hand).map p.connOf

namespace Pool

variable {p : Pool} {e : Env} {a : Acquire} {r : Ref} {rest : List Ref}

theorem conns_takeIdle (hi : p.idle = r :: rest) :
    ({ p with idle := rest }.conns (some (a, r))).Perm (p.conns none) := by
  have hperm : (r :: (p.active ++ rest)).Perm (p.live none) := by
    rw [live, hi]
    exact List.perm_middle.symm
  exact hperm.map p.connOf

theorem conns_opened (ho : Owned e p (p.live none)) (e' : Env) :
    (p.opened e' a.login).conns (some (a, p.handles.length)) =
      (p.attempts + 1) :: p.conns none := by
  refine List.cons_eq_cons.2 ⟨?_, List.map_congr_left fun s hs => ?_⟩
  · exact congrArg (·.raw.conn) (handle_add_self _ _)
  · exact congrArg (·.raw.conn) (handle_add_ne _ _ (Nat.ne_of_lt (ho.lt hs)))

/-- The connection stays, under a new handle. -/
theorem conns_takenOver (ho : Owned e p (p.live none)) (ha : p.active = r :: rest) (held : Span)
    (id : Nat) :
    (p.takenOver r rest held id).conns (some (a, p.handles.length)) = p.conns none := by
  have hlive : p.live none = r :: (rest ++ p.idle) := by rw [live, ha]; rfl
  change (p.handles.length :: (rest ++ p.idle)).map _ = (p.live none).map p.connOf
  rw [hlive]
  refine List.cons_eq_cons.2 ⟨?_, List.map_congr_left fun s hs => ?_⟩
  · exact congrArg (·.raw.conn) (handle_passOn_new _ _ _ _)
  · have hlt : s < p.handles.length := ho.lt (hlive ▸ List.mem_cons_of_mem r hs)
    exact congrArg Raw.conn (raw_passOn _ r _ _ hlt)

theorem conns_handedOut (p : Pool) (a : Acquire) (r : Ref) (t : Instant) :
    ((p.handedOut a r t).conns none).Perm (p.conns (some (a, r))) := by
  have hconns : (p.handedOut a r t).conns none = (p.active ++ [r] ++ p.idle).map p.connOf :=
    List.map_congr_left fun s _ => congrArg Raw.conn (part_withHandle Handle.raw p r s fun _ => rfl)
  rw [hconns, List.append_assoc]
  exact List.perm_middle.map p.connOf

theorem conns_rejected (p : Pool) (r : Ref) : (p.rejected r).conns none = p.conns none :=
  List.map_congr_left fun s _ => connOf_withHandle_retire p r s .invalid

theorem conns_detached (p : Pool) (r : Ref) :
    (p.detached r).conns none = (p.checkedIn r).conns none :=
  List.map_congr_left fun s _ => connOf_withHandle_retire (p.checkedIn r) r s .invalid

/-- A handle that is given back leaves the lists with its connection. -/
theorem conns_checkedIn (ho : Owned e p (p.live none)) (hv : (p.handle r).valid = true)
    (hidle : r ∉ p.idle) : (p.conns none).Perm (p.connOf r :: (p.checkedIn r).conns none) :=
  ((List.perm_cons_erase (ho.mem_active hv hidle)).append_right p.idle).map p.connOf

/-- It comes back under a new handle if there is a place for it. -/
theorem conns_stored (ho : Owned e p (p.live none)) (hv : (p.handle r).valid = true)
    (hidle : r ∉ p.idle) (t : Instant) (id : Nat) :
    ((p.stored r t id).conns none).Perm (p.conns none) := by
  have hlt : ∀ s ∈ (p.checkedIn r).live none, s < p.handles.length := fun s hs =>
    (ho.checkedIn hv hidle).lt (List.mem_cons_of_mem _ hs)
  have hperm : ((p.stored r t id).live none).Perm
      (p.handles.length :: (p.checkedIn r).live none) := by
    change (p.active.erase r ++ (p.idle ++ [p.handles.length])).Perm _
    rw [← List.append_assoc]
    exact List.perm_append_singleton ..
  have hconns : (p.handles.length :: (p.checkedIn r).live none).map (p.stored r t id).connOf =
      p.connOf r :: (p.checkedIn r).conns none := by
    refine List.cons_eq_cons.2 ⟨?_, List.map_congr_left fun s hs => ?_⟩
    · exact congrArg (·.raw.conn) (handle_passOn_new _ _ _ _)
    · exact congrArg Raw.conn (raw_passOn _ r _ _ (hlt s hs))
  refine (hperm.map _).trans ?_
  rw [hconns]
  exact (conns_checkedIn ho hv hidle).symm

end Pool

/-! ## Custody -/

/-- A connection for which a pool has to answer: it had it to begin with, or it was opened since. -/
def Entrusted (n conn : Nat) (e : Env) (conns : List Nat) (e' : Env) : Prop :=
  conn ∈ conns ∨ e'.Opened n conn ∧ ¬e.Opened n conn

/-- A connection does not get lost between the moment at which the connections `conns` are in the
hands of pool `n` and the later moment at which these are `conns'`. -/
structure Custody (n conn : Nat) (e : Env) (conns : List Nat) (e' : Env) (conns' : List Nat) :
    Prop where
  grows : e.Grows e'
  kept : Entrusted n conn e conns e' → conn ∈ conns' ∨ e.SeenOff n conn e'
  only : conn ∈ conns' → Entrusted n conn e conns e'

namespace Custody

variable {n conn : Nat} {e e₁ e₂ : Env} {conns conns₁ conns₂ : List Nat}

/-- What goes is seen off. -/
theorem gone (he : e.Grows e₁) (hc : e₁.connectsOf n = e.connectsOf n)
    (hkept : conn ∈ conns → conn ∈ conns₁ ∨ e.SeenOff n conn e₁)
    (honly : conn ∈ conns₁ → conn ∈ conns) : Custody n conn e conns e₁ conns₁ where
  grows := he
  kept h := hkept (h.resolve_right fun hnew => hnew.2 ((Env.opened_congr hc).1 hnew.1))
  only h := .inl (honly h)

/-- Nothing comes and nothing goes. -/
theorem same (he : e.Grows e₁) (hc : e₁.connectsOf n = e.connectsOf n)
    (hm : conn ∈ conns₁ ↔ conn ∈ conns) : Custody n conn e conns e₁ conns₁ :=
  .gone he hc (fun h => .inl (hm.2 h)) hm.1

/-- One connection goes. -/
theorem without {c : Nat} (he : e.Later n [c] e₁) (hperm : conns.Perm (c :: conns₁))
    (hd : e.SeenOff n c e₁) : Custody n conn e conns e₁ conns₁ := by
  refine .gone he.grows (Env.connectsOf_congr he.connects) (fun h => ?_) fun h =>
    hperm.mem_iff.2 (List.mem_cons_of_mem _ h)
  rcases List.mem_cons.1 (hperm.mem_iff.1 h) with rfl | h
  · exact .inr hd
  · exact .inl h

theorem trans (h₁ : Custody n conn e conns e₁ conns₁) (h₂ : Custody n conn e₁ conns₁ e₂ conns₂) :
    Custody n conn e conns e₂ conns₂ where
  grows := h₁.grows.trans h₂.grows
  kept h := by
    -- It was entrusted to the pool before the moment in the middle, or only after that.
    have hfirst : Entrusted n conn e conns e₁ ∨ Entrusted n conn e₁ conns₁ e₂ := by
      rcases h with h | ⟨hopened, hnew⟩
      · exact .inl (.inl h)
      · by_cases hearly : e₁.Opened n conn
        · exact .inl (.inr ⟨hearly, hnew⟩)
        · exact .inr (.inr ⟨hopened, hearly⟩)
    have hlast : Entrusted n conn e₁ conns₁ e₂ → conn ∈ conns₂ ∨ e.SeenOff n conn e₂ := fun h =>
      (h₂.kept h).imp id (.after h₁.grows)
    rcases hfirst with hfirst | hsecond
    · rcases h₁.kept hfirst with hin | hoff
      · exact hlast (.inl hin)
      · exact .inr (hoff.before h₂.grows)
    · exact hlast hsecond
  only h := by
    rcases h₂.only h with hin | ⟨hopened, hnew⟩
    · exact (h₁.only hin).imp id (.imp (·.grows h₂.grows) id)
    · exact .inr ⟨hopened, fun hold => hnew (hold.grows h₁.grows)⟩

/-! ## Turns -/

variable {e' : Env} {p p' : Pool}

theorem seek {raised : Bool} {g g' : Stage} (st : Seek n raised g g')
    (ho : Owned g.env g.pool (g.pool.live g.phase.hand)) (hnum : Numbered n g.env g.pool.attempts) :
    Custody n conn g.env (g.pool.conns g.phase.hand) g'.env (g'.pool.conns g'.phase.hand) := by
  have hgrows := st.grows
  cases st with
  | rouse | stop | shut | interrupted | timeOut | sleep => exact .same hgrows rfl .rfl
  | takeIdle _ hi => exact .same hgrows rfl (conns_takeIdle hi).mem_iff
  | refused _ he hd =>
    refine ⟨hgrows, fun h => ?_, .inl⟩
    rcases h with h | ⟨hopened, hnew⟩
    · exact .inl h
    · obtain ⟨rfl, hok⟩ := (he.opened_iff.1 hopened).resolve_left hnew
      exact .inr (hd hok)
  | @openNew e p a e' _ he =>
    -- The numbers of the connections opened so far are smaller, so this one is new.
    have hnot : ¬e.Opened n (p.attempts + 1) := fun h => Nat.not_succ_le_self _ (hnum.le h)
    have hopened : ∀ c, (e'.wrapped.note (.opened e'.nextRaw)).Opened n c ↔
        e.Opened n c ∨ c = p.attempts + 1 := fun c => he.opened_iff.trans (by simp)
    change Custody n conn e (p.conns none) _
      ((p.opened e' a.login).conns (some (a, p.handles.length)))
    rw [conns_opened ho]
    refine ⟨hgrows, fun h => .inl ?_, fun h => ?_⟩
    · rcases h with h | ⟨hafter, hnew⟩
      · exact List.mem_cons_of_mem _ h
      · exact List.mem_cons.2 (.inl (((hopened conn).1 hafter).resolve_left hnew))
    · rcases List.mem_cons.1 h with rfl | h
      · exact .inr ⟨(hopened _).2 (.inr rfl), hnot⟩
      · exact .inl h
  | takeOver _ _ _ ha _ _ he =>
    exact .same hgrows (Env.connectsOf_congr he.connects)
      (.of_eq (congrArg (conn ∈ ·) (conns_takenOver ho ha _ _)))
  | handOut _ he =>
    exact .same hgrows (Env.connectsOf_congr he.connects) (conns_handedOut ..).mem_iff
  | @reject e p a r e' _ he hd | @giveUp e p a r e' _ he hd =>
    have hconns : (p.rejected r).conns none = p.conns none := conns_rejected p r
    exact .without he (hconns ▸ .rfl) hd

/-- No connection gets lost in a turn. -/
theorem seeks {raised : Bool} {g g' : Stage} (hs : Seeks n raised g g')
    (ho : Owned g.env g.pool (g.pool.live g.phase.hand)) (hnum : Numbered n g.env g.pool.attempts) :
    Custody n conn g.env (g.pool.conns g.phase.hand) g'.env (g'.pool.conns g'.phase.hand) ∧
      Owned g'.env g'.pool (g'.pool.live g'.phase.hand) := by
  induction hs with
  | refl => exact ⟨.same (.refl _) rfl .rfl, ho⟩
  | tail hs st ih =>
    obtain ⟨hc, ho⟩ := ih
    exact ⟨hc.trans (.seek st ho (Seeks.numbered hs hnum)), ho.seek st⟩

/-! ## Operations -/

/-- A connection that is given back for good is seen off. -/
theorem putAway {q : Pool} {r : Ref} {state : HandleState} (ho : Owned e p (p.live none))
    (hv : (p.handle r).valid = true) (hidle : r ∉ p.idle) (he : e.Later n [p.connOf r] e')
    (hd : e.SeenOff n (p.connOf r) e') (hq : q.handles = p.handles)
    (hlive : q.live none = (p.checkedIn r).live none) :
    Custody n conn e (p.conns none) e' ((q.withHandle r (·.retire state)).conns none) := by
  have hconns : (q.withHandle r (·.retire state)).conns none = (p.checkedIn r).conns none := by
    change (q.live none).map _ = ((p.checkedIn r).live none).map _
    rw [hlive]
    refine List.map_congr_left fun s _ => ?_
    rw [connOf_withHandle_retire, connOf, handle_congr hq]
    rfl
  exact .without he (hconns ▸ conns_checkedIn ho hv hidle) hd

/-- All connections are given up, and each is seen off. -/
theorem drained {q : Pool} (he : e.Later n p.pooled e') (hd : ∀ c ∈ p.pooled, e.SeenOff n c e') :
    Custody n conn e (p.conns none) e' (q.emptied.conns none) := by
  have hnone : q.emptied.conns none = [] := by simp [conns, live]
  rw [hnone]
  refine .gone he.grows (Env.connectsOf_congr he.connects) (fun h => .inr (hd conn ?_)) fun h =>
    absurd h List.not_mem_nil
  obtain ⟨r, hr, rfl⟩ := List.mem_map.1 h
  refine List.mem_map.2 ⟨r, ?_, rfl⟩
  simpa using hr

/-- No connection gets lost in an operation, but a caller may keep the one that is detached. -/
theorem yield {who : Handback} (y : Yield n who e p e' p') (ho : Owned e p (p.live none))
    (hidle : ∀ r ∈ who.ref?, r ∉ p.idle)
    (hkeep : ∀ r, who = .detach r → r ∈ p.active → (p.handle r).valid = true → p.connOf r ≠ conn) :
    Custody n conn e (p.conns none) e' (p'.conns none) := by
  have hgrows := y.grows
  have hconnects := Env.connectsOf_congr (n := n) y.connects
  cases y with
  | @spurn _ _ r _ hv =>
    have hconns : (p.spurned r).conns none = p.conns none :=
      congrArg (·.map p.connOf) (ho.live_checkedIn (by simp [hv]))
    exact .same hgrows hconnects (by rw [hconns])
  | @letGo _ _ r hn =>
    have hconns : (p.checkedIn r).conns none = p.conns none :=
      congrArg (·.map p.connOf) (ho.live_checkedIn hn)
    exact .same hgrows hconnects (by rw [hconns])
  | @discard _ _ r _ hv he hd => exact .putAway ho hv (hidle r rfl) he hd rfl rfl
  | @close _ _ r _ _ hv _ he hd => exact .putAway ho hv (hidle r rfl) he hd rfl rfl
  | @store _ _ r t e₁ hv =>
    exact .same hgrows hconnects (conns_stored ho hv (hidle r rfl) _ _).mem_iff
  | @detach _ _ r ha hv =>
    refine .same hgrows hconnects ?_
    rw [conns_detached, (conns_checkedIn ho hv (hidle r rfl)).mem_iff, List.mem_cons]
    exact (or_iff_right fun h => hkeep r rfl ha hv h.symm).symm
  | drain he hd => exact .drained he hd
  | change _ he hd => exact .drained he hd
  | shutDown _ he hd => exact .drained he hd

end Custody

end ConnPool
