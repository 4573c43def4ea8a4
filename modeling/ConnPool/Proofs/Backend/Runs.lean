import ConnPool.Proofs.Pool.Clean

/-!
# Runs of a backend without a database

`Mock.Reached` tells which backends come about. To compare a backend with what was done to it, a run
also keeps the calls with their answers, and the orders of the test in between: `Runs m₀ past m`
says that `past`, latest first, leads from `m₀` to `m`. The calls may be to any connection, and they
go on after faults. No backend is left out (`reached_iff`).
-/

namespace ConnPool.Mock

/-- What happens to a backend: a call, with the answer, or an order of the test. -/
inductive Event
  | call (conn : Nat) (deed : Deed)
  | order (order : Order)

/-- Nothing was opened yet. What the test has set up does not matter. -/
structure Unused (m : Mock) : Prop where
  connections : m.connections = []
  opened : m.opened = 0
  closed : m.closed = 0

/-- From `m₀` the events, latest first, lead to a backend. -/
inductive Runs (m₀ : Mock) : List Event → Mock → Prop
  | start : Runs m₀ [] m₀
  | connect {past : List Event} {m : Mock} (h : Runs m₀ past m) (conn : Nat)
      (hnew : m.get? conn = none) (target : Target) :
      Runs m₀ (.call conn (.connect target (connect conn target m).1.outcome) :: past)
        (connect conn target m).2
  | ask {past : List Event} {m : Mock} (h : Runs m₀ past m) (conn : Nat) (question : Question) :
      Runs m₀ (.call conn (.ask question (ask conn question m).1.outcome) :: past)
        (ask conn question m).2
  | tell {past : List Event} {m : Mock} (h : Runs m₀ past m) (conn : Nat) (command : Command) :
      Runs m₀ (.call conn (.tell command (tell conn command m).1.outcome) :: past)
        (tell conn command m).2
  | obey {past : List Event} {m m' : Mock} (h : Runs m₀ past m) (order : Order)
      {reply : OrderReply} (hobey : m.obey order = some (reply, m')) :
      Runs m₀ (.order order :: past) m'

/-- The backends that come about are those that some run leads to. -/
theorem reached_iff {m : Mock} : m.Reached ↔ ∃ m₀ past, m₀.Unused ∧ Runs m₀ past m := by
  constructor
  · intro h
    induction h with
    | fresh hconnections hopened hclosed =>
      exact ⟨_, [], ⟨hconnections, hopened, hclosed⟩, .start⟩
    | @connect _ _ conn hnew target ih =>
      obtain ⟨m₀, past, h₀, hrun⟩ := ih
      exact ⟨m₀, _, h₀, hrun.connect conn hnew target⟩
    | ask _ conn question ih =>
      obtain ⟨m₀, past, h₀, hrun⟩ := ih
      exact ⟨m₀, _, h₀, hrun.ask conn question⟩
    | tell _ conn command ih =>
      obtain ⟨m₀, past, h₀, hrun⟩ := ih
      exact ⟨m₀, _, h₀, hrun.tell conn command⟩
    | obey _ hobey ih =>
      obtain ⟨m₀, past, h₀, hrun⟩ := ih
      exact ⟨m₀, _, h₀, hrun.obey _ hobey⟩
  · rintro ⟨m₀, past, h₀, h⟩
    induction h with
    | start => exact .fresh h₀.connections h₀.opened h₀.closed
    | connect _ conn hnew target ih => exact ih.connect hnew target
    | ask _ conn question ih => exact ih.ask conn question
    | tell _ conn command ih => exact ih.tell conn command
    | obey _ order hobey ih => exact ih.obey hobey

theorem Runs.reached {m₀ m : Mock} {past : List Event} (h₀ : m₀.Unused) (h : Runs m₀ past m) :
    m.Reached := reached_iff.2 ⟨m₀, past, h₀, h⟩

/-- How the answer to an order comes about. -/
theorem tell_outcome (m : Mock) (conn : Nat) (command : Command) :
    (tell conn command m).1.outcome =
      match m.get? conn with
      | none => .error .closed
      | some k => (k.tell m.failing command).map fun _ => () := by
  unfold tell
  cases m.get? conn with
  | none => rfl
  | some k =>
    cases htell : k.tell m.failing command with
    | error fault =>
      simp only [htell]
      rfl
    | ok after =>
      simp only [htell]
      split <;> rfl

/-- An order that meets a fault changes nothing. -/
theorem tell_error {m : Mock} {conn : Nat} {command : Command} {fault : Fault}
    (h : (tell conn command m).1.outcome = .error fault) : (tell conn command m).2 = m := by
  rw [tell_outcome] at h
  unfold tell
  cases hk : m.get? conn with
  | none => rfl
  | some k =>
    rw [hk] at h
    cases htell : k.tell m.failing command with
    | error _ => simp only [htell]
    | ok after =>
      dsimp only at h
      rw [htell] at h
      exact nomatch h

end ConnPool.Mock
