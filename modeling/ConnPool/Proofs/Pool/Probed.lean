import ConnPool.Backend.Scripted
import ConnPool.Proofs.Pool.Calls
import ConnPool.Proofs.Pool.Clean

/-!
# What a probe finds

`Examines` tells call by call how a probe may go. `Report` tells what a probe found by looking at
the answers it got, whatever they were: it pings only where it has to, a connection is healthy if
nothing it was asked went wrong, and it is closed just if it failed the ping. What it reports is
worded in full.

**Theorem (`probe_reports`).** Every probe of every connection is as `Report` says, and it talks to
no other connection. A connection without a database that was pinged and found healthy is open and
has nothing pending, after any run of its backend.
-/

namespace ConnPool

/-- What went wrong in a call that a probe makes, in words. An answer is wrong if it is a fault, and
if it says that the connection is closed. -/
def Deed.failure? : Deed → Option String
  | .ask .isClosed (.ok true) => some "connection is closed"
  | .ask _ (.error fault) | .tell _ (.error fault) | .connect _ (.error fault) =>
    match fault with
    | .closed => some "connection is closed"
    | .io text => some ("IO error: " ++ text)
    | .driver text => some ("driver error: " ++ text)
  | _ => none

/-- Among the calls is a ping that went well: the query was run, and the connection commits by
itself or was rolled back. -/
structure Probe.Passed (p : Probe) (deeds : List Deed) : Prop where
  executed : .tell (.execute p.query) (.ok ()) ∈ deeds
  settled : .ask .autoCommit (.ok true) ∈ deeds ∨
    (.ask .autoCommit (.ok false) ∈ deeds ∧ .tell .rollback (.ok ()) ∈ deeds)

theorem Probe.passed_iff {p : Probe} {deeds : List Deed} :
    p.Passed deeds ↔ .tell (.execute p.query) (.ok ()) ∈ deeds ∧
      (.ask .autoCommit (.ok true) ∈ deeds ∨
        (.ask .autoCommit (.ok false) ∈ deeds ∧ .tell .rollback (.ok ()) ∈ deeds)) :=
  ⟨fun h => ⟨h.executed, h.settled⟩, fun h => ⟨h.1, h.2⟩⟩

/-- To ask whether a connection is closed is no part of a ping, and neither is to close it. -/
@[simp] theorem Probe.passed_cons_asked {p : Probe} {deeds : List Deed}
    {outcome : Except Fault Bool} :
    p.Passed (.ask .isClosed outcome :: deeds) ↔ p.Passed deeds := by
  simp [Probe.passed_iff]

@[simp] theorem Probe.passed_append_closed {p : Probe} {deeds : List Deed}
    {outcome : Except Fault Unit} :
    p.Passed (deeds ++ [.tell .close outcome]) ↔ p.Passed deeds := by
  simp [Probe.passed_iff]

/-- The verdict of a probe is what its calls say. -/
structure Report (p : Probe) (unused : Span) (verdict : Verdict) (deeds : List Deed) : Prop where
  /-- The connection is asked first whether it is closed. -/
  first : ∃ outcome, deeds.head? = some (.ask .isClosed outcome)
  pinged : verdict.pinged = true ↔
    deeds.head? = some (.ask .isClosed (.ok false)) ∧ p.enabled = true ∧ p.threshold < unused
  healthy : verdict.healthy = true ↔
    deeds.head? = some (.ask .isClosed (.ok false)) ∧ (verdict.pinged = true → p.Passed deeds)
  /-- Only a connection that fails the ping is closed, and it is closed once. -/
  closes : deeds.countP (·.isClose) =
    if verdict.pinged = true ∧ ¬verdict.healthy = true then 1 else 0
  /-- Without a ping nothing else is asked. -/
  silent : verdict.pinged = false → deeds.length = 1
  /-- There is something to report just of a connection that is not healthy. -/
  present : verdict.error.isSome = true ↔ ¬verdict.healthy = true
  /-- What is reported is the first failure, whatever failed after it. -/
  error : verdict.error = deeds.findSome? (·.failure?)

/-! ## The calls of a ping -/

variable {p : Probe} {n conn : Nat}

/-- All calls of a ping are to the connection. -/
theorem Pings.calls {outcome : Except Fault Unit} {said : List Call}
    (h : Pings p n conn outcome said) : ∀ c ∈ said, c.site = n ∧ c.conn = conn := by
  cases h with
  | refused => simp
  | answered h => cases h <;> simp

/-- None of them closes the connection. -/
theorem Pings.countP_isClose {outcome : Except Fault Unit} {said : List Call}
    (h : Pings p n conn outcome said) : (said.map (·.deed)).countP (·.isClose) = 0 :=
  List.countP_map.trans h.closeCalls_eq

/-- In a ping that goes well nothing fails. -/
theorem Pings.passed {said : List Call} (h : Pings p n conn (.ok ()) said) :
    p.Passed (said.map (·.deed)) ∧ (said.map (·.deed)).findSome? (·.failure?) = none := by
  cases h with
  | answered h =>
    cases h with
    | nothing => exact ⟨⟨by simp, .inl (by simp)⟩, rfl⟩
    | rolledBack => exact ⟨⟨by simp, .inr (by simp)⟩, rfl⟩

/-- A ping that goes wrong lacks an answer, and ends with the first failure in it. -/
theorem Pings.failed {fault : Fault} {said : List Call} (h : Pings p n conn (.error fault) said) :
    ¬p.Passed (said.map (·.deed)) ∧
      (said.map (·.deed)).findSome? (·.failure?) = some fault.message := by
  refine ⟨fun ⟨hexecuted, hsettled⟩ => ?_, ?_⟩
  · cases h with
    | refused => simp at hexecuted
    | answered h => cases h <;> simp at hsettled
  · cases h with
    | refused => cases fault <;> rfl
    | answered h => cases h <;> cases fault <;> rfl

/-! ## The calls of a probe -/

/-- All calls of a probe are to the connection. -/
theorem Examines.calls {unused : Span} {verdict : Verdict} {said : List Call}
    (h : Examines p unused n conn verdict said) : ∀ c ∈ said, c.site = n ∧ c.conn = conn := by
  cases h with
  | unknown | closed | trusted => simp
  | passed _ _ hping =>
    cases hping with
    | passed hping => exact List.forall_mem_cons.2 ⟨⟨rfl, rfl⟩, hping.calls⟩
  | failed _ _ hping =>
    cases hping with
    | failed hping closed =>
      refine List.forall_mem_cons.2 ⟨⟨rfl, rfl⟩, List.forall_mem_append.2 ⟨hping.calls, ?_⟩⟩
      simp

/-- A probe that goes as `Examines` says finds what its calls say. -/
theorem Examines.report {unused : Span} {verdict : Verdict} {said : List Call}
    (h : Examines p unused n conn verdict said) :
    Report p unused verdict (said.map (·.deed)) := by
  cases h with
  | unknown latency fault =>
    constructor
    case first => exact ⟨_, rfl⟩
    case error => cases fault <;> rfl
    all_goals simp [Deed.isClose]
  | closed latency =>
    constructor
    case first => exact ⟨_, rfl⟩
    case error => rfl
    all_goals simp [Deed.isClose]
  | trusted latency hpings =>
    have hno : ¬(p.enabled = true ∧ p.threshold < unused) := by
      rw [← Probe.pings_iff, hpings]
      exact Bool.false_ne_true
    constructor
    case first => exact ⟨_, rfl⟩
    case pinged => simpa using hno
    case error => rfl
    all_goals simp [Deed.isClose]
  | passed latency hpings hping =>
    cases hping with
    | passed hping =>
      obtain ⟨hpassed, hfailure⟩ := hping.passed
      constructor
      case first => exact ⟨_, rfl⟩
      case pinged => simp [Probe.pings_iff.1 hpings]
      case healthy => simp [hpassed]
      case closes => simpa [Deed.isClose] using hping.countP_isClose
      case error =>
        rw [List.map_cons, List.findSome?_cons]
        exact hfailure.symm
      all_goals simp
  | failed latency hpings hping =>
    cases hping with
    | failed hping closed =>
      obtain ⟨hpassed, hfailure⟩ := hping.failed
      constructor
      case first => exact ⟨_, rfl⟩
      case pinged => simp [Probe.pings_iff.1 hpings]
      case healthy => simp [hpassed]
      case closes =>
        rw [List.map_cons, List.map_append, List.countP_cons, List.countP_append,
          hping.countP_isClose]
        rfl
      case error =>
        rw [List.map_cons, List.map_append, List.findSome?_cons, List.findSome?_append, hfailure]
        rfl
      all_goals simp

/-! ## Every probe -/

/-- **Verdict and calls of a probe.** Whatever a backend answers, a probe says to the connection,
and to no other one, what `Report` tells of it. A connection without a database that was pinged and
found healthy is not closed and has nothing pending. -/
theorem probe_reports :
    (∀ (S : Type) [Backend S] (p : Probe) (conn : Nat) (unused : Span) (l : Line S),
      ∃ deeds, l.env.Through (deeds.map (⟨l.site, conn, ·⟩)) (p.examine conn unused l).2.env ∧
        Report p unused (p.examine conn unused l).1 deeds) ∧
    ∀ (p : Probe) (conn : Nat) (unused : Span) (l : Line Mock), l.backend.Reached →
      (p.examine conn unused l).1.pinged = true → (p.examine conn unused l).1.healthy = true →
        ((p.examine conn unused l).2.backend).Clean conn := by
  constructor
  · intro S _ p conn unused l
    obtain ⟨-, said, hsaid, hexamines⟩ := Talk.examine_utters p l.site conn unused l rfl
    refine ⟨said.map (·.deed), ?_, hexamines.report⟩
    have hsame : (said.map (·.deed)).map (⟨l.site, conn, ·⟩) = said := by
      rw [List.map_map]
      refine (List.map_congr_left fun c hc => ?_).trans (List.map_id _)
      obtain ⟨hsite, hconn⟩ := hexamines.calls c hc
      rw [Function.comp, ← hsite, ← hconn]
      rfl
    rw [hsame]
    exact hsaid
  · intro p conn unused l hreached hpinged hhealthy
    obtain ⟨attempts, hk⟩ := hreached.kept
    exact (Talk.examine_open hk hhealthy).2 hpinged

/-- A backend with one connection, on which a statement is pending. -/
def halfDone : Mock :=
  (Mock.tell 1 (.execute "INSERT") (Mock.tell 1 (.setAutoCommit false)
    (Mock.connect 1 Mock.target {}).2).2).2

/-- A backend with one connection, whose transport is broken. -/
def broken : Scripted :=
  .lone 1 {} { fails := [(.execute, .io "reset by peer"), (.close, .driver "no answer")] }

/-- A ping rolls the statement back. On the broken connection it fails, and so does the close after
that: what is reported is why the ping failed. -/
theorem probe_reports_halfDone :
    let p : Probe := ⟨true, "SELECT 1", 5⟩
    let passed := p.examine 1 6 (⟨{}, 0, halfDone⟩ : Line Mock)
    let failed := p.examine 1 6 (⟨{}, 0, broken⟩ : Line Scripted)
    let deeds := failed.2.env.calls.reverse.map (·.deed)
    halfDone.Reached ∧ (halfDone.get? 1).map (·.pending) = some 1 ∧
      passed.1.pinged = true ∧ passed.1.healthy = true ∧ passed.2.backend.Clean 1 ∧
      failed.1 = ⟨false, true, 0, some "IO error: reset by peer"⟩ ∧
      deeds = [.ask .isClosed (.ok false),
        .tell (.execute "SELECT 1") (.error (.io "reset by peer")),
        .tell .close (.error (.driver "no answer"))] ∧
      Report p 6 failed.1 deeds := by
  intro p passed failed deeds
  have hfresh : Mock.Reached {} := .fresh rfl rfl rfl
  have hreached : halfDone.Reached := ((hfresh.connect rfl _).tell 1 _).tell 1 _
  have hclean := probe_reports.2 p 1 6 ⟨{}, 0, halfDone⟩ hreached rfl rfl
  obtain ⟨said, hsaid, hreport⟩ := probe_reports.1 Scripted p 1 6 ⟨{}, 0, broken⟩
  rw [hsaid.deeds_eq rfl] at hreport
  exact ⟨hreached, rfl, rfl, rfl, hclean, rfl, rfl, hreport⟩

end ConnPool
