import ConnPool.Proofs.World.Redrawn
import ConnPool.Proofs.World.Signals
import ConnPool.Proofs.World.Turns

/-!
# Demands and tickets

An acquire that is blocked knows nothing of its demand but the login and the flag. Of a run it can
be told which demand gave the ticket out (`Asked`): each demand gives one ticket out, in a critical
section of its own.

**Theorem (`Run.asked_blocked`).** A blocked acquire has the login and the flag of its demand.
-/

namespace ConnPool.World

open Pool

variable {S : Type} [Bench S] {w w' : World S} {n t : Nat} {d : Demand} {past : List (World S)}

/-- A demand gives one ticket out. -/
theorem demand_length (h : w.demand n d = some w') :
    w'.tickets.length = w.tickets.length + 1 := by
  have hticketed : w.ticketed.tickets.length = w.tickets.length + 1 := List.length_append
  rcases demand_cases h with ⟨flag, rfl⟩ | ⟨cause, rfl⟩
  · cases hn : w.sites[n]? with
    | none =>
      rw [start_none hn]
      exact hticketed
    | some site =>
      rw [start_eq hn, length_endTurn]
      exact hticketed
  · exact (List.length_set ..).trans hticketed

theorem asked_next :
    Asked n t d w' (w :: past) ↔
      (w.demand n d = some w' ∧ w.tickets.length = t) ∨ Asked n t d w past := by
  simp only [Asked, moves, List.mem_cons, or_and_right, exists_or, exists_eq_left]

theorem Run.asked_lt (hr : Run w past) (h : Asked n t d w past) : t < w.tickets.length := by
  obtain ⟨⟨u, u'⟩, hm, hd, rfl⟩ := h
  obtain ⟨hu, hs, hlater⟩ := hr.of_mem_moves hm
  have hlt : u.tickets.length < u'.tickets.length :=
    demand_length hd ▸ Nat.lt_succ_self u.tickets.length
  have hq : Queued u' := hu.queued.preserved hs
  obtain ⟨y, hy, -⟩ := hq.becomes_sections hlater (List.getElem?_eq_getElem hlt)
  exact (List.getElem?_eq_some_iff.1 hy).1

/-- The ticket that was given out in the latest critical section was not there before. -/
theorem asked_before (h : Asked n t d w' (w :: past)) (ht : t < w.tickets.length) :
    Asked n t d w past :=
  (asked_next.1 h).resolve_left fun ⟨_, heq⟩ => Nat.ne_of_lt ht heq.symm

/-- The handle that a demand names was there when the ticket was given out, and stays what it is. -/
theorem Run.asked_interrupt (hr : Run w past) {i : Nat} (h : Asked n t (.interruptible i) w past) :
    ∃ x, w.interrupts[i]? = some x := by
  obtain ⟨⟨u, u'⟩, hm, hd, -⟩ := h
  obtain ⟨hu, hs, hlater⟩ := hr.of_mem_moves hm
  obtain ⟨x, hx, -⟩ := Option.map_eq_some_iff.1 hd
  have hu' : Reachable u' := hu.tail hs
  exact ⟨x, hlater.interrupts hu' (hs.interrupts hu hx)⟩

theorem Run.asked_flagOf (hr : Run w past) (h : Asked n t d w past) (hs : Section w w') :
    w'.flagOf d = w.flagOf d := by
  cases d with
  | ordinary | loggedIn => rfl
  | interruptible i =>
    obtain ⟨x, hx⟩ := hr.asked_interrupt h
    rw [flagOf, flagOf, hx, hs.interrupts hr.reachable hx]

/-- A blocked acquire has the login and the flag of each demand that could have given its ticket
out. -/
theorem Run.asked_blocked (hr : Run w past) {v : Waiter} (hv : v ∈ w.waiters)
    (h : Asked n v.ticket d w past) : d.login = v.acquire.login ∧ v.flag = w.flagOf d := by
  induction hr generalizing v with
  | start => exact absurd hv List.not_mem_nil
  | @next w w' past hr hs ih =>
    have hq := hr.reachable.queued
    rcases asked_next.1 h with ⟨hd, ht⟩ | hold
    · -- It has just started.
      have hold : v ∉ w.waiters := fun hv => absurd ht (Nat.ne_of_gt (hq.lt_tickets hv))
      rcases demand_flag hd with ⟨rfl, -⟩ | ⟨cause, rfl⟩
      · rw [flagOf_congr (start_unsignalled w n d.login (w.flagOf d)).interrupts]
        cases hn : w.sites[n]? with
        | none =>
          rw [start_none hn] at hv
          exact absurd hv hold
        | some site =>
          obtain ⟨turn, s, heq, hseeks⟩ := start_turns hn d.login (w.flagOf d)
          rcases mem_endTurn (heq ▸ hv) with hv | ⟨-, -, hflag, -, -, wait, rfl, -⟩
          · exact absurd hv hold
          · exact ⟨hseeks.aims.login.symm, hflag⟩
      · exact absurd hv hold
    · rw [hr.asked_flagOf hold hs]
      rcases hs.calm_or_turn with hc | ⟨m, login, flag, hm, rfl⟩ | ⟨u, hu, rfl⟩
      · obtain ⟨u, hu, heq⟩ := hc.comes hv
        obtain ⟨hticket, -, hflag, hacquire, -⟩ := Waiter.of_asleep_eq heq
        rw [← hacquire, ← hflag]
        exact ih hu (hticket ▸ hold)
      · obtain ⟨turn, s, heq, -⟩ := start_turns (List.getElem?_eq_getElem hm) login flag
        rcases mem_endTurn (heq ▸ hv) with hv | ⟨hnew, -⟩
        · exact ih hv hold
        · exact absurd hnew (Nat.ne_of_lt (hr.asked_lt hold))
      · obtain ⟨turn, s, heq, hseeks⟩ := resume_turns (List.getElem?_eq_getElem (hq.site u hu))
        rcases mem_endTurn (heq ▸ hv) with hv | ⟨hticket, -, hflag, -, -, wait, rfl, -⟩
        · exact ih (mem_without.1 hv).1 hold
        · rw [hticket] at hold
          obtain ⟨hlogin, hsame⟩ := ih hu hold
          exact ⟨hlogin.trans hseeks.aims.login.symm, hflag.trans hsame⟩

end ConnPool.World
