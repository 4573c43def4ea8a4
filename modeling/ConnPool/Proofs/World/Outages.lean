import ConnPool.Proofs.Pool.Faults
import ConnPool.Proofs.World.Failures

/-!
# Outages

A database may go away and come back. The connections from before that are dead then, those that lie
idle and those that are checked out, and no acquire is to fail for them as long as new connections
can be opened. The settings say how many bad candidates an acquire puts up with, and that is enough:
the idle list is never longer, and an acquire that takes a checkout over has no idle connection to
discard besides.

**Theorem (`dead_connections_never_exhaust`).** As long as the new connections are fit, no acquire
gives up or fails to open one.
-/

namespace ConnPool

open Pool

/-- What an acquire of pool `n` may come to while new connections are fit. -/
inductive Ticket.Unspoiled (n : Nat) : Ticket → Prop
  | waiting : Unspoiled n .waiting
  | held (r : Ref) : Unspoiled n (.held n r)
  | closed : Unspoiled n (.failed .closed)
  | interrupted : Unspoiled n (.failed .interrupted)
  | timeout (after : Span) : Unspoiled n (.failed (.timeout after))

/-- The only turns with another end are those that new connections can spoil. -/
theorem Seeks.unspoiled {n : Nat} {raised : Bool} {g : Stage} {e : Env} {p : Pool} {turn : Turn}
    (hs : Seeks n raised g ⟨e, p, .ended turn⟩) (hstart : g.phase.Starts)
    (hturn : turn.spoiled = false) : (turn.ticket n).Unspoiled n := by
  rcases turn with ⟨a, error | r⟩ | ⟨a, d⟩
  · rcases hs.error hstart with (rfl | rfl | ⟨after, rfl⟩) | ⟨fault, rfl⟩ | ⟨k, rfl⟩
    · exact .closed
    · exact .interrupted
    · exact .timeout after
    · exact nomatch hturn
    · exact nomatch hturn
  · exact .held r
  · exact .waiting

namespace World

variable {S : Type} [Bench S] {w w' : World S} {n t : Nat} {p : Pool}

/-- Let an acquire have a turn at a pool that keeps idle connections or puts up with bad ones. If
the connections that are opened in the turn answer all calls as usable connections do, then the
acquire does not give up, and does not fail to open a connection. The connections that the pool had
before may be closed or severed, or fail in any other way. (Settings are counts of 64 bits.) -/
theorem dead_connections_never_exhaust (hw : Reachable w) (ht : TurnOf n t w w')
    (hn : w.pools[n]? = some p) (hcount : p.settings.maxIdle ≤ maxCount)
    (hone : 1 ≤ p.settings.maxIdle + p.settings.badTolerance)
    (hnew : ∀ conn, p.attempts < conn → ¬w.env.Heard Deed.failed n conn w'.env) :
    ∃ x, w'.tickets[t]? = some x ∧ x.Unspoiled n := by
  obtain ⟨site, hsite, rfl⟩ := exists_site_of_pools hn
  have hspare := Spare.of_bounded (hw.pool bounded_invariant hn) hcount hone
  obtain ⟨turn, s, ⟨hspoils, raised, phase, hstart, hseeks⟩, hended⟩ := ht.ends_of hw hsite
    (P := fun turn s => Spoils n site.pool.attempts (w.scene n site) turn s ∧
      ∃ raised phase, phase.Starts ∧
        Seeks n raised ⟨w.env, site.pool, phase⟩ ⟨s.env, s.pool, .ended turn⟩)
    (fun raised login => ⟨begin_heard raised login _ hspare, raised, _, trivial,
      (begin_turns raised login (w.scene n site)).2⟩)
    (fun raised v hv => ⟨resume_heard raised v.began (hw.unspent hv) _ hspare, raised,
      .woken v.began v.acquire, trivial,
      (Pool.resume_turns raised v.began v.acquire (w.scene n site)).2⟩)
  refine ⟨_, hended.ticket, hseeks.unspoiled hstart ?_⟩
  by_contra hspoiled
  obtain ⟨conn, hasked, hheard⟩ := hspoils (by simpa using hspoiled)
  rw [← hended.env] at hheard
  exact hnew conn hasked hheard

/-- A connection lies idle in a pool that puts up with one bad candidate, and the database closes
it. -/
def severedIdle : World Scripted :=
  runAll {} [
    .create {} {
      settings := { maxActive := 1, maxIdle := 1, badTolerance := 0 }, target := { url := "db" } },
    .acquire 0 .ordinary false, .act (.release 0),
    .act (.order 0 (Scripted.Order.alter 1 { closed := some true }))]

/-- The next acquire discards it, opens a new one, and ends with that. -/
theorem dead_connections_never_exhaust_severed :
    ∃ x, let w := severedIdle.start 0 none none
      w.tickets[1]? = some x ∧ x.Unspoiled 0 ∧ (w.env.connectsOf 0).length = 2 := by
  have hfacts : ∃ p ∈ severedIdle.pools[0]?, p.settings.maxIdle = 1 ∧ p.attempts = 1 := by
    decide +kernel
  obtain ⟨p, hn, hidle, hattempts⟩ := hfacts
  have hturn : TurnOf 0 1 severedIdle (severedIdle.start 0 none none) :=
    .start .ordinary none rfl rfl (by decide +kernel)
  have hfine : ∀ c ∈ (severedIdle.start 0 none none).env.calls, 1 < c.conn →
      c.deed.failed = false := by decide +kernel
  have hnew : ∀ conn, p.attempts < conn →
      ¬severedIdle.env.Heard Deed.failed 0 conn (severedIdle.start 0 none none).env := by
    intro conn hconn hheard
    obtain ⟨c, hc, -, rfl, hfailed⟩ := hheard.mem_calls
    rw [hattempts] at hconn
    exact absurd ((hfine c hc hconn).symm.trans hfailed) Bool.false_ne_true
  obtain ⟨x, hx, hunspoiled⟩ := dead_connections_never_exhaust (Reachable.runAll .refl _) hturn hn
    (by rw [hidle]; decide) (by rw [hidle]; exact Nat.le_add_right 1 _) hnew
  exact ⟨x, hx, hunspoiled, by decide +kernel⟩

end World

end ConnPool
