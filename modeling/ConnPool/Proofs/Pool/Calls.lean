import ConnPool.Proofs.Pool.Upkeep

/-!
# The calls of a pool, one by one

What a talk says to its backend can be told call by call, in the order in which the calls are made.
`Env.Through` reads the calls off the journal, and `Talk.Utters` goes through a talk in the order of
its text: what it says in the end is what each part says, one after the other.

* `Settles`: the calls that leave nothing pending on a connection.
* `Farewells`: the calls with which connections are given up.
* `Examines`: the calls of a probe, and what it finds.

**Theorem (`drain_utters`).** A pool that gives up every connection takes leave of one after the
other, and an answer of one connection makes no difference to the next.
-/

namespace ConnPool

open Pool

/-! ## Calls in order -/

/-- The calls from `e` to `e'` were `said`, in this order. -/
def Env.Through (e : Env) (said : List Call) (e' : Env) : Prop :=
  e'.calls = said.reverse ++ e.calls

namespace Env.Through

variable {e e₁ e₂ : Env} {said more : List Call}

theorem of_calls (h : e₁.calls = e.calls) : e.Through [] e₁ := h

theorem trans (h₁ : e.Through said e₁) (h₂ : e₁.Through more e₂) :
    e.Through (said ++ more) e₂ := by
  rw [Through, h₂, h₁, List.reverse_append, List.append_assoc]

/-- What is written to the log is no call. -/
theorem note (h : e.Through said e₁) (n : Notice) : e.Through said (e₁.note n) := h

/-- Calls to one connection with which a journal begins can be read off it. -/
theorem deeds_eq {n conn : Nat} {deeds : List Deed}
    (h : e.Through (deeds.map (⟨n, conn, ·⟩)) e₁) (he : e.calls = []) :
    deeds = e₁.calls.reverse.map (·.deed) := by
  have hcalls : e₁.calls.reverse = deeds.map (⟨n, conn, ·⟩) := by
    rw [h, he, List.append_nil, List.reverse_reverse]
  rw [hcalls, List.map_map]
  exact (List.map_id deeds).symm

end Env.Through

/-- Whether a call tells a connection to close. -/
def Deed.isClose : Deed → Bool
  | .tell .close _ => true
  | _ => false

/-- How many of the calls tell a connection to close. -/
def closeCalls (said : List Call) : Nat := said.countP (·.deed.isClose)

@[simp] theorem closeCalls_append (said more : List Call) :
    closeCalls (said ++ more) = closeCalls said + closeCalls more := List.countP_append

/-! ## What talks say -/

namespace Talk

variable {S : Type} {α β : Type}

/-- A talk with the backend of pool `n` ends with an answer and after calls that satisfy `P`. -/
def Utters (n : Nat) (t : Talk S α) (P : α → List Call → Prop) : Prop :=
  ∀ l : Line S, l.site = n →
    (t l).2.site = n ∧ ∃ said, l.env.Through said (t l).2.env ∧ P (t l).1 said

namespace Utters

variable {n : Nat} {P : α → List Call → Prop}

theorem mono {t : Talk S α} {Q : α → List Call → Prop} (h : Utters n t P)
    (hPQ : ∀ a said, P a said → Q a said) : Utters n t Q := fun l hl => by
  obtain ⟨hsite, said, hsaid, hP⟩ := h l hl
  exact ⟨hsite, said, hsaid, hPQ _ _ hP⟩

theorem pure {a : α} (h : P a []) : Utters n (Pure.pure a : Talk S α) P :=
  fun _ hl => ⟨hl, [], .of_calls rfl, h⟩

theorem bind {t : Talk S β} {f : β → Talk S α}
    (h : Utters n t fun b said => Utters n (f b) fun a more => P a (said ++ more)) :
    Utters n (t >>= f) P := fun l hl => by
  obtain ⟨hsite, said, hsaid, hrest⟩ := h l hl
  obtain ⟨hsite', more, hmore, hP⟩ := hrest (t l).2 hsite
  exact ⟨hsite', said ++ more, hsaid.trans hmore, hP⟩

/-- A talk that stops at the first fault says no more after it. -/
theorem attempt {a : Attempt S β} {f : β → Attempt S α} {P : Except Fault α → List Call → Prop}
    (h : Utters n a.run fun outcome said =>
      (∀ x, outcome = .ok x → Utters n (f x).run fun b more => P b (said ++ more)) ∧
        ∀ fault, outcome = .error fault → P (.error fault) said) :
    Utters n (a >>= f).run P := by
  refine bind (f := ExceptT.bindCont f) (h.mono fun outcome said hrest => ?_)
  cases outcome with
  | ok x => exact hrest.1 x rfl
  | error fault =>
    refine .pure ?_
    rw [List.append_nil]
    exact hrest.2 fault rfl

theorem now {P : Instant → List Call → Prop} (h : ∀ t, P t []) :
    Utters n (Talk.now : Talk S Instant) P :=
  fun l hl => ⟨hl, [], .of_calls rfl, h l.env.now⟩

theorem note {P : Unit → List Call → Prop} {notice : Notice} (h : P () []) :
    Utters n (Talk.note notice : Talk S Unit) P :=
  fun _ hl => ⟨hl, [], .of_calls rfl, h⟩

theorem exchange {conn : Nat} {deed : Except Fault α → Deed} {call : S → Reply α × S}
    {P : Except Fault α → List Call → Prop} (h : ∀ outcome, P outcome [⟨n, conn, deed outcome⟩]) :
    Utters n (Talk.exchange conn deed call).run P := by
  rintro l rfl
  exact ⟨rfl, [⟨l.site, conn, _⟩], rfl, h _⟩

variable [Backend S] {conn : Nat}

theorem ask {question : Question} {P : Except Fault Bool → List Call → Prop}
    (h : ∀ outcome, P outcome [⟨n, conn, .ask question outcome⟩]) :
    Utters n (Talk.ask conn question : Attempt S Bool).run P := .exchange h

theorem tell {command : Command} {P : Except Fault Unit → List Call → Prop}
    (htakes : Backend.takes S command = true)
    (h : ∀ outcome, P outcome [⟨n, conn, .tell command outcome⟩]) :
    Utters n (Talk.tell conn command : Attempt S Unit).run P := by
  rw [Talk.tell, if_pos htakes]
  exact .exchange h

end Utters

end Talk

/-- What is known of a talk's calls is known of the act that consists in it. -/
theorem Pool.ends_utters {S α : Type} {n : Nat} {t : Talk S α} {Q : α → List Call → Prop}
    {P : α → Scene S → Prop} {s : Scene S} (ht : Talk.Utters n t Q) (hs : s.site = n)
    (h : ∀ a s' said, s'.pool = s.pool → s'.site = n → s.env.Through said s'.env → Q a said →
      P a s') : Ends (talk t) s P := by
  obtain ⟨hsite, said, hsaid, hQ⟩ := ht s.toLine hs
  exact h _ _ said rfl hsite hsaid hQ

/-! ## Leaving nothing pending -/

/-- The calls that leave nothing pending on a connection, and how they end. There is no rollback
unless the connection says that it does not commit by itself. -/
inductive Settles (n conn : Nat) : Except Fault Unit → List Call → Prop
  | unknown (fault : Fault) :
      Settles n conn (.error fault) [⟨n, conn, .ask .autoCommit (.error fault)⟩]
  | nothing : Settles n conn (.ok ()) [⟨n, conn, .ask .autoCommit (.ok true)⟩]
  | rolledBack (outcome : Except Fault Unit) :
      Settles n conn outcome
        [⟨n, conn, .ask .autoCommit (.ok false)⟩, ⟨n, conn, .tell .rollback outcome⟩]

theorem Settles.closeCalls_eq {n conn : Nat} {outcome : Except Fault Unit} {said : List Call}
    (h : Settles n conn outcome said) : closeCalls said = 0 := by
  cases h <;> rfl

/-! ## Pinging and probing -/

/-- The calls of a ping, and how it ends: the query, and if that went well what leaves nothing
pending. -/
inductive Pings (p : Probe) (n conn : Nat) : Except Fault Unit → List Call → Prop
  | refused (fault : Fault) :
      Pings p n conn (.error fault) [⟨n, conn, .tell (.execute p.query) (.error fault)⟩]
  | answered {outcome : Except Fault Unit} {said : List Call} (h : Settles n conn outcome said) :
      Pings p n conn outcome (⟨n, conn, .tell (.execute p.query) (.ok ())⟩ :: said)

/-- The calls of a ping after which a connection is closed that failed it, and what is wrong. -/
inductive PingsOrCloses (p : Probe) (n conn : Nat) : Option String → List Call → Prop
  | passed {said : List Call} (h : Pings p n conn (.ok ()) said) : PingsOrCloses p n conn none said
  | failed {said : List Call} {fault : Fault} (h : Pings p n conn (.error fault) said)
      (closed : Except Fault Unit) :
      PingsOrCloses p n conn (some fault.message) (said ++ [⟨n, conn, .tell .close closed⟩])

/-- The calls of a probe, and what it finds. It asks first whether the connection is closed. -/
inductive Examines (p : Probe) (unused : Span) (n conn : Nat) : Verdict → List Call → Prop
  | unknown (latency : Span) (fault : Fault) :
      Examines p unused n conn (.failed latency false fault.message)
        [⟨n, conn, .ask .isClosed (.error fault)⟩]
  | closed (latency : Span) :
      Examines p unused n conn (.failed latency false "connection is closed")
        [⟨n, conn, .ask .isClosed (.ok true)⟩]
  | trusted (latency : Span) (h : p.pings unused = false) :
      Examines p unused n conn (.passed latency false) [⟨n, conn, .ask .isClosed (.ok false)⟩]
  | passed (latency : Span) (h : p.pings unused = true) {said : List Call}
      (hping : PingsOrCloses p n conn none said) :
      Examines p unused n conn (.passed latency true)
        (⟨n, conn, .ask .isClosed (.ok false)⟩ :: said)
  | failed (latency : Span) (h : p.pings unused = true) {error : String} {said : List Call}
      (hping : PingsOrCloses p n conn (some error) said) :
      Examines p unused n conn (.failed latency true error)
        (⟨n, conn, .ask .isClosed (.ok false)⟩ :: said)

theorem Pings.closeCalls_eq {p : Probe} {n conn : Nat} {outcome : Except Fault Unit}
    {said : List Call} (h : Pings p n conn outcome said) : closeCalls said = 0 := by
  cases h with
  | refused => rfl
  | answered h => exact h.closeCalls_eq

/-- A probe that finds nothing wrong with a connection does not close it. -/
theorem Examines.closeCalls_eq {p : Probe} {unused : Span} {n conn : Nat} {verdict : Verdict}
    {said : List Call} (h : Examines p unused n conn verdict said)
    (hhealthy : verdict.healthy = true) : closeCalls said = 0 := by
  cases h with
  | unknown | closed | failed => exact absurd hhealthy Bool.false_ne_true
  | trusted => rfl
  | passed _ _ hping =>
    cases hping with
    | passed h => exact h.closeCalls_eq

variable {S : Type} [Backend S] {n conn : Nat}

namespace Talk

theorem clearPending_utters (n conn : Nat) :
    Utters n (clearPending conn : Attempt S Unit).run (Settles n conn) := by
  refine .attempt <| .ask fun outcome => ⟨?_, ?_⟩
  · rintro on rfl
    cases on with
    | true => exact .pure .nothing
    | false =>
      change Utters n (tell conn .rollback : Attempt S Unit).run _
      exact .tell rfl fun outcome => .rolledBack outcome
  · rintro fault rfl
    exact .unknown fault

theorem dispose_utters (n conn : Nat) :
    Utters n (dispose conn : Talk S Unit) fun _ said =>
      ∃ outcome, said = [⟨n, conn, .tell .close outcome⟩] := by
  refine .bind <| .tell rfl fun outcome => ?_
  cases outcome with
  | ok _ => exact .pure ⟨_, rfl⟩
  | error fault => exact .note ⟨_, rfl⟩

theorem ping_utters (p : Probe) (n conn : Nat) :
    Utters n (p.ping conn : Attempt S Unit).run (Pings p n conn) := by
  refine .attempt <| .tell rfl fun outcome => ⟨?_, ?_⟩
  · rintro _ rfl
    exact (clearPending_utters n conn).mono fun _ _ h => .answered h
  · rintro fault rfl
    exact .refused fault

theorem pingOrClose_utters (p : Probe) (n conn : Nat) :
    Utters n (p.pingOrClose conn : Talk S (Option String)) (PingsOrCloses p n conn) := by
  refine .bind <| .note <| .bind <| (ping_utters p n conn).mono fun outcome said h => ?_
  cases outcome with
  | ok _ =>
    refine .pure ?_
    rw [List.append_nil]
    exact .passed h
  | error fault =>
    refine .bind <| .note <| .bind <| .tell rfl fun second => ?_
    cases second with
    | ok _ => exact .pure (.failed h _)
    | error _ => exact .bind <| .note <| .pure (.failed h _)

/-- What a probe says to a connection, and what it finds. -/
theorem examine_utters (p : Probe) (n conn : Nat) (unused : Span) :
    Utters n (p.examine conn unused : Talk S Verdict) (Examines p unused n conn) := by
  refine .bind <| .now fun started => .bind <| .ask fun outcome => ?_
  rcases outcome with fault | _ | _
  · exact .bind <| .now fun _ => .pure (.unknown _ fault)
  · dsimp only
    by_cases hpings : p.pings unused = true
    · rw [if_pos hpings]
      refine .bind <| (pingOrClose_utters p n conn).mono fun error said h => ?_
      cases error with
      | some error =>
        refine .bind <| .now fun _ => .pure ?_
        simp only [List.append_nil, List.nil_append, List.singleton_append]
        exact .failed _ hpings h
      | none =>
        refine .bind <| .now fun _ => .pure ?_
        simp only [List.append_nil, List.nil_append, List.singleton_append]
        exact .passed _ hpings h
    · rw [if_neg hpings]
      exact .bind <| .now fun _ => .pure (.trusted _ (Bool.eq_false_iff.2 hpings))
  · exact .bind <| .now fun _ => .pure (.closed _)

end Talk

/-! ## Giving connections up -/

/-- The calls with which a connection is given up: whatever is pending is rolled back, and then the
connection is told to close, however that went. -/
inductive Farewell (n conn : Nat) : List Call → Prop
  | mk {settled : Except Fault Unit} {said : List Call} (closed : Except Fault Unit)
      (h : Settles n conn settled said) : Farewell n conn (said ++ [⟨n, conn, .tell .close closed⟩])

/-- The calls with which connections are given up one after the other. -/
inductive Farewells (n : Nat) : List Nat → List Call → Prop
  | nil : Farewells n [] []
  | cons {conn : Nat} {conns : List Nat} {said more : List Call} (h : Farewell n conn said)
      (hs : Farewells n conns more) : Farewells n (conn :: conns) (said ++ more)

/-- All calls of a farewell are to the connection, and one of them tells it to close. -/
theorem Farewell.calls {said : List Call} (h : Farewell n conn said) :
    (∀ c ∈ said, c.site = n ∧ c.conn = conn) ∧ closeCalls said = 1 := by
  obtain ⟨closed, hsettles⟩ := h
  refine ⟨?_, by rw [closeCalls_append, hsettles.closeCalls_eq]; rfl⟩
  cases hsettles <;> simp

theorem Farewells.calls {conns : List Nat} {said : List Call} (h : Farewells n conns said) :
    ∀ c ∈ said, c.site = n ∧ c.conn ∈ conns := by
  induction h with
  | nil => exact fun c hc => absurd hc List.not_mem_nil
  | cons h hs ih =>
    intro c hc
    rcases List.mem_append.1 hc with hc | hc
    · exact ⟨(h.calls.1 c hc).1, (h.calls.1 c hc).2 ▸ List.mem_cons_self ..⟩
    · exact ⟨(ih c hc).1, List.mem_cons_of_mem _ (ih c hc).2⟩

/-- A connection that is named once among those that are given up is told to close once. -/
theorem Farewells.closes {conns : List Nat} {said : List Call} (h : Farewells n conns said)
    (hnodup : conns.Nodup) (hconn : conn ∈ conns) :
    closeCalls (said.filter (·.conn == conn)) = 1 := by
  induction h with
  | nil => exact absurd hconn List.not_mem_nil
  | @cons conn₀ conns said more h hs ih =>
    obtain ⟨hnot, hnodup⟩ := List.nodup_cons.1 hnodup
    rw [List.filter_append, closeCalls_append]
    rcases List.mem_cons.1 hconn with rfl | hconn
    · have hmine : said.filter (·.conn == conn) = said :=
        List.filter_eq_self.2 fun c hc => by simpa using (h.calls.1 c hc).2
      have hrest : more.filter (·.conn == conn) = [] :=
        List.filter_eq_nil_iff.2 fun c hc heq => hnot (beq_iff_eq.1 heq ▸ (hs.calls c hc).2)
      rw [hmine, hrest, h.calls.2]
      rfl
    · have hother : said.filter (·.conn == conn) = [] := by
        refine List.filter_eq_nil_iff.2 fun c hc heq => hnot ?_
        rw [← (h.calls.1 c hc).2, beq_iff_eq.1 heq]
        exact hconn
      rw [hother, ih hnodup hconn]
      rfl

namespace Pool

/-- Whether a connection is found cleared is how the calls to clear it end. -/
theorem isCleared_utters (r : Ref) (s : Scene S) :
    Ends (isCleared r) s fun clean s' => s.Chats [s.pool.connOf r] s' ∧ ∃ outcome said,
      s.env.Through said s'.env ∧ Settles s.site (s.pool.connOf r) outcome said ∧
        (clean = true ↔ outcome = .ok ()) := by
  refine ⟨isCleared_chats r s, ?_⟩
  suffices h : Ends (isCleared r) s fun clean s' => ∃ outcome said,
      s.env.Through said s'.env ∧ Settles s.site (s.pool.connOf r) outcome said ∧
        (clean = true ↔ outcome = .ok ()) from h
  refine .bind <| .handleAt <| .bind <|
    ends_utters (Talk.clearPending_utters s.site _) rfl fun outcome s₁ said _ _ hsaid hsettles => ?_
  cases outcome with
  | ok _ => exact .pure ⟨_, said, hsaid, hsettles, by simp⟩
  | error fault => exact .bind <| .note <| .pure ⟨_, said, hsaid, hsettles, by simp⟩

theorem giveUp_utters (r : Ref) (s : Scene S) :
    Ends (giveUp r) s fun _ s' => ∃ said,
      s.env.Through said s'.env ∧ Farewell s.site (s.pool.connOf r) said := by
  refine .bind <| .handleAt <| .bind <| .retire <| .bind <| (isCleared_utters r _).mono ?_
  intro _ s₁ ⟨h₁, _, said, hsaid, hsettles, _⟩
  refine ends_utters (Talk.dispose_utters s.site _) h₁.site fun _ s₂ more _ _ hmore hclose => ?_
  obtain ⟨closed, rfl⟩ := hclose
  rw [connOf_withHandle_retire] at hsettles
  exact ⟨_, hsaid.trans hmore, .mk closed hsettles⟩

theorem forM_giveUp_utters (rs : List Ref) (s : Scene S) :
    Ends (rs.forM giveUp) s fun _ s' => ∃ said,
      s.env.Through said s'.env ∧ Farewells s.site (rs.map s.pool.connOf) said := by
  induction rs generalizing s with
  | nil => exact .pure ⟨[], .of_calls rfl, .nil⟩
  | cons r rs ih =>
    refine .bind <| .chatsAnd (giveUp_chats r s) (giveUp_utters r s) ?_
    intro _ s₁ h₁ ⟨said, hsaid, hfirst⟩
    refine (ih s₁).mono fun _ s₂ ⟨more, hmore, hrest⟩ => ⟨_, hsaid.trans hmore, .cons hfirst ?_⟩
    have hconns : rs.map s₁.pool.connOf = rs.map s.pool.connOf :=
      List.map_congr_left fun t _ => by
        rw [h₁.pool]
        exact connOf_withHandle_retire s.pool r t .closed
    rw [h₁.site, hconns] at hrest
    exact hrest

/-- A pool that gives up everything takes leave of its connections, from the newest checkout to the
oldest and then from the newest idle connection to the oldest. -/
theorem drain_utters (s : Scene S) :
    Ends drain s fun _ s' => ∃ said,
      s.env.Through said s'.env ∧ Farewells s.site
        ((s.pool.active.reverse ++ s.pool.idle.reverse).map s.pool.connOf) said :=
  .bind <| .look <| .bind <| .update <| .bind <|
    (forM_giveUp_utters _ _).mono fun _ _ ⟨said, hsaid, hutters⟩ =>
      .note ⟨said, hsaid.note _, hutters⟩

end Pool

end ConnPool
