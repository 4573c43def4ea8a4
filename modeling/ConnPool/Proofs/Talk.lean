import ConnPool.Probe

/-!
# What a talk leaves behind

Whatever a backend answers, a talk with it lets time pass and lengthens the journal, and that is all
that anything outside the backend sees of it. The journal grows by calls to the backend that was
talked to, about the connections that the talk is about.

* `Env.Later`: one environment is another one some calls to connections later.
* `Env.Opens`: the first of these calls was the one to open the connection.
* `Env.Heard`: one of these calls was of some kind.
* `Env.SeenOff`: it closed a connection, or found it closed.
* `Talk.Concerns`: a talk is about certain connections only. Each talk of the pool is about one.
-/

namespace ConnPool

/-! ## Calls -/

/-- Whether a call is one to open a connection. -/
def Deed.isConnect : Deed → Bool
  | .connect .. => true
  | _ => false

/-- Whether a call tells a connection to close, or is answered that the connection is closed. -/
def Deed.seesOff : Deed → Bool
  | .tell .close _ => true
  | .ask .isClosed (.ok closed) => closed
  | _ => false

/-- The calls to open a connection, latest first. -/
def Env.connects (e : Env) : List Call := e.calls.filter (·.deed.isConnect)

/-- The calls to open a connection for pool `n`, latest first. -/
def Env.connectsOf (e : Env) (n : Nat) : List Call := e.connects.filter (·.site == n)

/-! ## Environments -/

/-- The environment `e'` is `e` after some calls to the connections `conns` of pool `n`. -/
structure Env.Later (n : Nat) (conns : List Nat) (e e' : Env) : Prop where
  now : e.now ≤ e'.now
  nextRaw : e'.nextRaw = e.nextRaw
  nextHandle : e'.nextHandle = e.nextHandle
  calls : ∃ new, e'.calls = new ++ e.calls ∧
    ∀ c ∈ new, c.site = n ∧ c.conn ∈ conns ∧ c.deed.isConnect = false

namespace Env.Later

variable {n : Nat} {conns : List Nat} {e e₁ e₂ : Env}

theorem refl (n : Nat) (conns : List Nat) (e : Env) : e.Later n conns e :=
  ⟨Nat.le_refl _, rfl, rfl, [], rfl, by simp⟩

theorem trans (h₁ : e.Later n conns e₁) (h₂ : e₁.Later n conns e₂) : e.Later n conns e₂ := by
  obtain ⟨new₁, hc₁, hn₁⟩ := h₁.calls
  obtain ⟨new₂, hc₂, hn₂⟩ := h₂.calls
  refine ⟨Nat.le_trans h₁.now h₂.now, h₂.nextRaw.trans h₁.nextRaw,
    h₂.nextHandle.trans h₁.nextHandle, new₂ ++ new₁, by rw [hc₂, hc₁, List.append_assoc],
    fun c hc => ?_⟩
  rcases List.mem_append.1 hc with hc | hc
  · exact hn₂ c hc
  · exact hn₁ c hc

theorem mono {conns' : List Nat} (h : e.Later n conns e₁) (hsub : ∀ c ∈ conns, c ∈ conns') :
    e.Later n conns' e₁ := by
  obtain ⟨new, hc, hn⟩ := h.calls
  exact ⟨h.now, h.nextRaw, h.nextHandle, new, hc,
    fun c hc => ⟨(hn c hc).1, hsub _ (hn c hc).2.1, (hn c hc).2.2⟩⟩

theorem mem_calls (h : e.Later n conns e₁) {c : Call} (hc : c ∈ e.calls) : c ∈ e₁.calls := by
  obtain ⟨new, heq, -⟩ := h.calls
  rw [heq]
  exact List.mem_append_right _ hc

theorem connects (h : e.Later n conns e₁) : e₁.connects = e.connects := by
  obtain ⟨new, heq, hnew⟩ := h.calls
  have hnone : new.filter (·.deed.isConnect) = [] :=
    List.filter_eq_nil_iff.2 fun c hc => Bool.not_eq_true _ ▸ (hnew c hc).2.2
  rw [Env.connects, heq, List.filter_append, hnone]
  rfl

end Env.Later

theorem Env.later_note (n : Nat) (conns : List Nat) (e : Env) (notice : Notice) :
    e.Later n conns (e.note notice) :=
  ⟨Nat.le_refl _, rfl, rfl, [], rfl, by simp⟩

theorem Env.later_hear {conns : List Nat} (e : Env) (call : Call) (hc : call.conn ∈ conns)
    (hd : call.deed.isConnect = false) (took : Span) (notices : List Notice) :
    e.Later call.site conns (e.hear call took notices) :=
  ⟨Nat.le_add_right _ _, rfl, rfl, [call], rfl, by simpa using ⟨hc, hd⟩⟩

/-- The environment `e'` comes after `e`, whatever happened in between. -/
structure Env.Grows (e e' : Env) : Prop where
  now : e.now ≤ e'.now
  nextRaw : e.nextRaw ≤ e'.nextRaw
  calls : e.calls <:+ e'.calls

namespace Env.Grows

variable {e e₁ e₂ : Env}

theorem refl (e : Env) : e.Grows e := ⟨Nat.le_refl _, Nat.le_refl _, List.suffix_refl _⟩

theorem trans (h₁ : e.Grows e₁) (h₂ : e₁.Grows e₂) : e.Grows e₂ :=
  ⟨Nat.le_trans h₁.now h₂.now, Nat.le_trans h₁.nextRaw h₂.nextRaw, h₁.calls.trans h₂.calls⟩

theorem note (h : e.Grows e₁) (n : Notice) : e.Grows (e₁.note n) := ⟨h.now, h.nextRaw, h.calls⟩

end Env.Grows

theorem Env.Later.grows {n : Nat} {conns : List Nat} {e e' : Env} (h : e.Later n conns e') :
    e.Grows e' := by
  obtain ⟨new, heq, -⟩ := h.calls
  exact ⟨h.now, Nat.le_of_eq h.nextRaw.symm, new, heq.symm⟩

/-! ## Connections that come and go -/

/-- The environment `e'` is `e` after the backend of pool `n` was asked to open a connection, and
after some calls to the connection. -/
def Env.Opens (n conn : Nat) (target : Target) (outcome : Except Fault Unit) (e e' : Env) : Prop :=
  ∃ took notices, (e.hear ⟨n, conn, .connect target outcome⟩ took notices).Later n [conn] e'

namespace Env.Opens

variable {n conn : Nat} {target : Target} {outcome : Except Fault Unit} {e e₁ e₂ : Env}

theorem thenLater (h : e.Opens n conn target outcome e₁) (h' : e₁.Later n [conn] e₂) :
    e.Opens n conn target outcome e₂ := by
  obtain ⟨took, notices, hl⟩ := h
  exact ⟨took, notices, hl.trans h'⟩

theorem now (h : e.Opens n conn target outcome e₁) : e.now ≤ e₁.now := by
  obtain ⟨took, notices, hl⟩ := h
  exact Nat.le_trans (Nat.le_add_right ..) hl.now

theorem nextRaw (h : e.Opens n conn target outcome e₁) : e₁.nextRaw = e.nextRaw := by
  obtain ⟨took, notices, hl⟩ := h
  exact hl.nextRaw

/-- The call to open the connection is in the journal. -/
theorem mem_calls (h : e.Opens n conn target outcome e₁) :
    ⟨n, conn, .connect target outcome⟩ ∈ e₁.calls := by
  obtain ⟨took, notices, hl⟩ := h
  exact hl.mem_calls (List.mem_cons_self ..)

/-- It is the next call. -/
theorem calls (h : e.Opens n conn target outcome e₁) :
    ⟨n, conn, .connect target outcome⟩ :: e.calls <:+ e₁.calls := by
  obtain ⟨took, notices, hl⟩ := h
  exact hl.grows.calls

theorem connects (h : e.Opens n conn target outcome e₁) :
    e₁.connects = ⟨n, conn, .connect target outcome⟩ :: e.connects := by
  obtain ⟨took, notices, hl⟩ := h
  rw [hl.connects]
  rfl

theorem grows (h : e.Opens n conn target outcome e₁) : e.Grows e₁ := by
  obtain ⟨took, notices, hl⟩ := h
  exact ⟨Nat.le_trans (Nat.le_add_right ..) hl.now, Nat.le_of_eq hl.nextRaw.symm,
    (List.suffix_cons ..).trans hl.grows.calls⟩

end Env.Opens

/-- Between `e` and `e'` there was a call of some kind to the connection of pool `n`. -/
def Env.Heard (kind : Deed → Bool) (n conn : Nat) (e e' : Env) : Prop :=
  ∃ new, e'.calls = new ++ e.calls ∧ ∃ c ∈ new, c.site = n ∧ c.conn = conn ∧ kind c.deed = true

namespace Env.Heard

variable {kind : Deed → Bool} {n conn : Nat} {e e₁ e₂ : Env}

theorem after (he : e.Grows e₁) (h : e₁.Heard kind n conn e₂) : e.Heard kind n conn e₂ := by
  obtain ⟨old, hold⟩ := he.calls
  obtain ⟨new, hnew, c, hc, hcall⟩ := h
  exact ⟨new ++ old, by rw [hnew, ← hold, List.append_assoc], c, List.mem_append_left _ hc, hcall⟩

theorem before (h : e.Heard kind n conn e₁) (he : e₁.Grows e₂) : e.Heard kind n conn e₂ := by
  obtain ⟨old, hold⟩ := he.calls
  obtain ⟨new, hnew, c, hc, hcall⟩ := h
  exact ⟨old ++ new, by rw [← hold, hnew, List.append_assoc], c, List.mem_append_right _ hc, hcall⟩

theorem mem_calls (h : e.Heard kind n conn e₁) :
    ∃ c ∈ e₁.calls, c.site = n ∧ c.conn = conn ∧ kind c.deed = true := by
  obtain ⟨new, hnew, c, hc, hcall⟩ := h
  refine ⟨c, ?_, hcall⟩
  rw [hnew]
  exact List.mem_append_left _ hc

end Env.Heard

/-- Between `e` and `e'` the connection of pool `n` was told to close, or said that it is closed. -/
def Env.SeenOff (n conn : Nat) (e e' : Env) : Prop :=
  ∃ new, e'.calls = new ++ e.calls ∧
    ∃ c ∈ new, c.site = n ∧ c.conn = conn ∧ c.deed.seesOff = true

namespace Env.SeenOff

variable {n conn : Nat} {e e₁ e₂ : Env}

theorem after (he : e.Grows e₁) (h : e₁.SeenOff n conn e₂) : e.SeenOff n conn e₂ :=
  Heard.after he h

theorem before (h : e.SeenOff n conn e₁) (he : e₁.Grows e₂) : e.SeenOff n conn e₂ :=
  Heard.before h he

/-- There is no such call where there is no call at all. -/
theorem calls_ne (h : e.SeenOff n conn e₁) : e₁.calls ≠ e.calls := fun heq => by
  obtain ⟨new, hnew, c, hc, -⟩ := h
  have hnil : new = [] := List.self_eq_append_left.1 (heq.symm.trans hnew)
  exact List.not_mem_nil (hnil ▸ hc)

end Env.SeenOff

/-! ## Talks -/

namespace Talk

variable {S : Type} {α β : Type} {conns : List Nat}

/-- The talk is about the connections `conns` only. -/
def Concerns (conns : List Nat) (t : Talk S α) : Prop :=
  ∀ l, (t l).2.site = l.site ∧ l.env.Later l.site conns (t l).2.env

namespace Concerns

theorem grows (conns : List Nat) {t : Talk S α} (h : Concerns conns t) (l : Line S) :
    l.env.Grows (t l).2.env := (h l).2.grows

theorem pure (a : α) : Concerns conns (Pure.pure a : Talk S α) :=
  fun l => ⟨rfl, .refl _ _ l.env⟩

theorem bind {t : Talk S α} {f : α → Talk S β} (ht : Concerns conns t)
    (hf : ∀ a, Concerns conns (f a)) : Concerns conns (t >>= f) := fun l => by
  obtain ⟨hs₁, he₁⟩ := ht l
  obtain ⟨hs₂, he₂⟩ := hf (t l).1 (t l).2
  rw [hs₁] at hs₂ he₂
  exact ⟨hs₂, he₁.trans he₂⟩

/-- A talk that stops at the first fault makes no more calls than one that goes on. -/
theorem attempt {a : Attempt S α} {f : α → Attempt S β} (ha : Concerns conns a.run)
    (hf : ∀ x, Concerns conns (f x).run) : Concerns conns (a >>= f).run := by
  refine bind (f := ExceptT.bindCont f) ha fun outcome => ?_
  cases outcome with
  | ok x => exact hf x
  | error fault => exact .pure _

theorem now : Concerns conns (Talk.now : Talk S Instant) := fun l => ⟨rfl, .refl _ _ l.env⟩

theorem note (notice : Notice) : Concerns conns (Talk.note notice : Talk S Unit) :=
  fun l => ⟨rfl, l.env.later_note _ _ notice⟩

theorem exchange {conn : Nat} (hc : conn ∈ conns) {deed : Except Fault α → Deed}
    (hd : ∀ outcome, (deed outcome).isConnect = false) (call : S → Reply α × S) :
    Concerns conns (Talk.exchange conn deed call).run :=
  fun l => ⟨rfl, l.env.later_hear ⟨l.site, conn, _⟩ hc (hd _) _ _⟩

end Concerns

/-- What follows on the order to close a connection is at most a notice. -/
theorem concerns_closeFailed (conns : List Nat) (outcome : Except Fault Unit) :
    Concerns conns (match outcome with
      | .error fault => note (.closeFailed fault)
      | _ => Pure.pure () : Talk S Unit) := by
  cases outcome with
  | ok _ => exact .pure _
  | error fault => exact .note _

variable [Backend S]

theorem concerns_ask (conn : Nat) (question : Question) :
    Concerns [conn] (ask conn question : Attempt S Bool).run :=
  .exchange (List.mem_singleton_self conn) (fun _ => rfl) _

theorem concerns_tell (conn : Nat) (command : Command) :
    Concerns [conn] (tell conn command : Attempt S Unit).run := by
  unfold tell
  split
  · exact .exchange (List.mem_singleton_self conn) (fun _ => rfl) _
  · exact .pure _

theorem concerns_clearPending (conn : Nat) :
    Concerns [conn] (clearPending conn : Attempt S Unit).run := by
  refine (concerns_ask conn .autoCommit).attempt fun on => ?_
  cases on with
  | true => exact .pure _
  | false => exact concerns_tell conn .rollback

theorem concerns_dispose (conn : Nat) : Concerns [conn] (dispose conn : Talk S Unit) :=
  (concerns_tell conn .close).bind (concerns_closeFailed _)

theorem concerns_prepare (conn : Nat) (target : Target) :
    Concerns [conn] (prepare conn target : Attempt S Unit).run := by
  unfold prepare
  extract_lets setTimeout setLevel
  have htimeout : ∀ u, Concerns [conn] (setTimeout u).run := by
    intro u
    unfold setTimeout
    cases target.networkTimeout with
    | none => exact .pure _
    | some timeout => exact concerns_tell conn (.setNetworkTimeout timeout)
  have hlevel : ∀ u, Concerns [conn] (setLevel u).run := by
    intro u
    unfold setLevel
    cases target.isolation with
    | none => exact htimeout ()
    | some level => exact (concerns_tell conn (.setIsolation level)).attempt htimeout
  cases target.autoCommit with
  | none => exact hlevel ()
  | some on => exact (concerns_tell conn (.setAutoCommit on)).attempt hlevel

theorem concerns_pingOrClose (p : Probe) (conn : Nat) :
    Concerns [conn] (p.pingOrClose conn : Talk S (Option String)) := by
  have hping : Concerns [conn] (p.ping conn : Attempt S Unit).run :=
    (concerns_tell conn (.execute p.query)).attempt fun _ => concerns_clearPending conn
  refine (Concerns.note _).bind fun _ => hping.bind fun outcome => ?_
  cases outcome with
  | ok _ => exact .pure _
  | error fault =>
    refine (Concerns.note _).bind fun _ => (concerns_tell conn .close).bind fun second => ?_
    cases second with
    | ok _ => exact .pure _
    | error _ => exact (Concerns.note _).bind fun _ => .pure _

theorem concerns_examine (p : Probe) (conn : Nat) (unused : Span) :
    Concerns [conn] (p.examine conn unused : Talk S Verdict) := by
  have report (verdict : Span → Verdict) (started : Instant) :
      Concerns [conn] (do return verdict ((← now) - started) : Talk S Verdict) :=
    Concerns.now.bind fun _ => .pure _
  refine Concerns.now.bind fun started => (concerns_ask conn .isClosed).bind fun outcome => ?_
  rcases outcome with fault | _ | _
  · exact report (.failed · false fault.message) started
  · dsimp only
    split
    · refine (concerns_pingOrClose p conn).bind fun error => ?_
      cases error with
      | some error => exact report (.failed · true error) started
      | none => exact report (.passed · true) started
    · exact report (.passed · false) started
  · exact report (.failed · false "connection is closed") started

/-! ## Talks that open or close a connection -/

theorem opens_connect (conn : Nat) (target : Target) (l : Line S) :
    l.env.Opens l.site conn target ((connect conn target : Attempt S Unit).run l).1
      ((connect conn target : Attempt S Unit).run l).2.env :=
  ⟨_, _, .refl _ _ _⟩

theorem seenOff_dispose (conn : Nat) (l : Line S) :
    l.env.SeenOff l.site conn (dispose conn l).2.env := by
  have htell : l.env.SeenOff l.site conn ((tell conn .close : Attempt S Unit).run l).2.env := by
    have htakes : Backend.takes S .close = true := rfl
    rw [tell, if_pos htakes]
    exact ⟨[_], rfl, _, List.mem_singleton_self _, rfl, rfl, rfl⟩
  exact htell.before (concerns_closeFailed [conn] _ _).2.grows

theorem seenOff_ask {conn : Nat} {l : Line S}
    (h : ((ask conn .isClosed : Attempt S Bool).run l).1 = .ok true) :
    l.env.SeenOff l.site conn ((ask conn .isClosed : Attempt S Bool).run l).2.env := by
  refine ⟨[⟨l.site, conn, .ask .isClosed (.ok true)⟩], ?_, _, List.mem_singleton_self _, rfl, rfl,
    rfl⟩
  rw [← h]
  rfl

end Talk

end ConnPool
