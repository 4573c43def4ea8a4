import ConnPool.World.Step
import Mathlib.Logic.Relation

/-!
# Reachable worlds

Between two critical sections of a pool anything may come in: another operation, the turn of an
acquire that was woken, or time. `Section` is one such move. It leaves open which blocked acquire
runs next, and when, so that `Reachable` has the worlds of every order of events.

**Theorem (`Reachable.run`).** A schedule only picks an order: a world from which `World.run`
carries out a step is taken to a reachable one.
-/

namespace ConnPool

/-- Whether a step is a single critical section, or none at all. The others are made up of
several. -/
def Step.isAtomic {S Order : Type} : Step S Order → Bool
  | .acquire .. | .batch _ | .advance _ => false
  | _ => true

namespace World

variable {S : Type}

/-! ## Blocked acquires -/

theorem earliest_mem {vs : List Waiter} {d : Instant} {v : Waiter}
    (h : earliest vs = some (d, v)) : v ∈ vs := by
  induction vs generalizing d v with
  | nil => exact nomatch h
  | cons u rest ih =>
    unfold earliest at h
    cases hd : u.deadline with
    | none =>
      rw [hd] at h
      exact List.mem_cons_of_mem _ (ih h)
    | some d₁ =>
      cases he : earliest rest with
      | none =>
        rw [hd, he] at h
        cases h
        exact List.mem_cons_self ..
      | some later =>
        rw [hd, he] at h
        dsimp only at h
        split at h <;> cases h
        · exact List.mem_cons_of_mem _ (ih he)
        · exact List.mem_cons_self ..

theorem next_mem {w : World S} {v : Waiter} (h : w.next = some v) : v ∈ w.waiters := by
  unfold next at h
  split at h
  · next hfind =>
    cases h
    exact List.mem_of_find?_eq_some hfind
  · obtain ⟨⟨d, u⟩, hu, rfl⟩ := Option.map_eq_some_iff.1 h
    exact earliest_mem (Option.filter_eq_some_iff.1 hu).1

variable [Bench S] {w w' : World S}

/-! ## Critical sections -/

/-- One critical section of a pool, or something that happens beside the pools. -/
inductive Section : World S → World S → Prop
  /-- A caller does something. -/
  | step {w w' : World S} {answer : Answer} (s : Step S (Bench.Order S)) (hs : s.isAtomic = true)
      (h : w.takeOne s = some (answer, w')) : Section w w'
  /-- The first turn of an acquire. -/
  | start {w w' : World S} (n : Nat) (d : Demand) (hn : (w.site? n).isSome = true)
      (h : w.demand n d = some w') : Section w w'
  /-- A later turn of an acquire. -/
  | resume {w : World S} {v : Waiter} (hv : v ∈ w.waiters) : Section w (w.resume v)
  /-- Time passes. -/
  | pass {w : World S} (t : Instant) : Section w (w.passTo t)

/-- Any number of critical sections. -/
abbrev Sections : World S → World S → Prop := Relation.ReflTransGen Section

/-- The worlds that callers, time and the order of events can lead to. -/
def Reachable (w : World S) : Prop := Sections {} w

/-! ## Histories -/

/-- A run of critical sections, from nothing to a world. The worlds that it came from are listed,
latest first. -/
inductive Run : World S → List (World S) → Prop
  | start : Run {} []
  | next {w w' : World S} {past : List (World S)} (hr : Run w past) (hs : Section w w') :
      Run w' (w :: past)

theorem Run.reachable {past : List (World S)} (hr : Run w past) : Reachable w := by
  induction hr with
  | start => exact .refl
  | next _ hs ih => exact ih.tail hs

/-- Every reachable world has a history. -/
theorem Reachable.exists_run (hw : Reachable w) : ∃ past, Run w past := by
  induction hw with
  | refl => exact ⟨[], .start⟩
  | tail _ hs ih =>
    obtain ⟨past, hr⟩ := ih
    exact ⟨_, hr.next hs⟩

/-- The critical sections of a run, latest first. -/
def moves : World S → List (World S) → List (World S × World S)
  | _, [] => []
  | w, u :: past => (u, w) :: moves u past

/-- What is known of a critical section of a run. -/
theorem Run.of_mem_moves {past : List (World S)} (hr : Run w past) {u u' : World S}
    (hm : (u, u') ∈ moves w past) : Reachable u ∧ Section u u' ∧ Sections u' w := by
  induction hr with
  | start => exact absurd hm List.not_mem_nil
  | next hr hs ih =>
    rcases List.mem_cons.1 hm with heq | hm
    · cases heq
      exact ⟨hr.reachable, hs, .refl⟩
    · obtain ⟨hu, hu', hlater⟩ := ih hm
      exact ⟨hu, hu', hlater.tail hs⟩

open scoped Classical in
/-- How many critical sections of a run were of some kind. -/
noncomputable def times (kind : World S → World S → Prop) (w : World S) (past : List (World S)) :
    Nat :=
  (moves w past).countP fun m => kind m.1 m.2

omit [Bench S] in
open scoped Classical in
theorem times_next (kind : World S → World S → Prop) (w w' : World S) (past : List (World S)) :
    times kind w' (w :: past) = times kind w past + if kind w w' then 1 else 0 := by
  simp [times, moves, List.countP_cons]

/-! ## Schedules -/

theorem settleWithin_sections (turns : Nat) (w : World S) : Sections w (settleWithin turns w) := by
  induction turns generalizing w with
  | zero => exact .refl
  | succ turns ih =>
    unfold settleWithin
    split
    · exact .refl
    · next v hv => exact .head (.resume (next_mem hv)) (ih _)

theorem settle_sections (w : World S) : Sections w w.settle := settleWithin_sections _ w

theorem fire_sections {v : Waiter} (hv : v ∈ w.waiters) (d : Instant) : Sections w (w.fire d v) :=
  .head (.pass d) (.head (.resume hv) (settle_sections _))

theorem driveWithin_sections (ticket firings : Nat) (w : World S) :
    Sections w (driveWithin ticket firings w) := by
  induction firings generalizing w with
  | zero => exact .refl
  | succ firings ih =>
    unfold driveWithin
    split
    · split
      · exact .refl
      · next d v hv => exact (fire_sections (earliest_mem hv) d).trans (ih _)
    · exact .refl

theorem passWithin_sections (limit : Instant) (firings : Nat) (w : World S) :
    Sections w (passWithin limit firings w) := by
  induction firings generalizing w with
  | zero => exact .refl
  | succ firings ih =>
    unfold passWithin
    split
    · exact .refl
    · next d v hv =>
      split
      · exact (fire_sections (earliest_mem hv) d).trans (ih _)
      · exact .refl

theorem advance_sections (w : World S) (d : Span) : Sections w (w.advance d) :=
  (passWithin_sections (w.env.now + d) (d + 1) w).tail (.pass _)

theorem acquire_sections {n : Nat} {d : Demand} {wait : Bool} {answer : Answer}
    (hn : (w.site? n).isSome = true) (h : w.acquire n d wait = some (answer, w')) :
    Sections w w' := by
  obtain ⟨started, hstarted, heq⟩ := Option.map_eq_some_iff.1 h
  have hsettled : Sections w started.settle := .head (.start n d hn hstarted) (settle_sections _)
  cases heq
  split
  · exact hsettled.trans (driveWithin_sections ..)
  · exact hsettled

theorem actAll_sections (actions : List (Option (Action (Bench.Order S)))) (w : World S) :
    Sections w (w.actAll actions).2 := by
  induction actions generalizing w with
  | nil => exact .refl
  | cons action rest ih =>
    unfold actAll
    split
    · next answer w₁ h =>
      obtain ⟨a, -, ha⟩ := Option.bind_eq_some_iff.1 h
      exact .head (.step (.act a) rfl ha) (ih w₁)
    · exact ih w

theorem take_sections {s : Step S (Bench.Order S)} {outcome : Outcome}
    (h : w.take s = some (outcome, w')) : Sections w w' := by
  cases s with
  | batch actions =>
    by_cases hmany : 1 < w.waiters.length
    · rw [take, if_pos hmany] at h
      exact nomatch h
    · rw [take, if_neg hmany] at h
      cases h
      exact actAll_sections actions w
  | acquire n d wait =>
    obtain ⟨⟨answer, w₁⟩, h, heq⟩ := Option.map_eq_some_iff.1 h
    cases heq
    obtain ⟨site, hn, h⟩ := Option.bind_eq_some_iff.1 h
    exact acquire_sections (Option.isSome_of_eq_some hn) h
  | advance d =>
    cases h
    exact advance_sections w d
  | create | createFrom | act | call | withConnection | rawConnection | useRaw | interruptHandle
  | cloneInterrupt | dropPool =>
    unfold take at h
    obtain ⟨⟨answer, w₁⟩, h, heq⟩ := Option.map_eq_some_iff.1 h
    cases heq
    exact .single (.step _ rfl h)

/-- Whatever a schedule carries out from a reachable world, it ends in a reachable one. -/
theorem Reachable.run {s : Step S (Bench.Order S)} {outcome : Outcome} (hw : Reachable w)
    (h : w.run s = some (outcome, w')) : Reachable w' := by
  obtain ⟨⟨outcome₁, w₁⟩, htake, heq⟩ := Option.map_eq_some_iff.1 h
  cases heq
  exact (hw.trans (take_sections htake)).trans (settle_sections w₁)

/-- The world after a step; one that cannot be carried out changes nothing. -/
def stepped (w : World S) (s : Step S (Bench.Order S)) : World S := ((w.run s).map (·.2)).getD w

/-- The world after some steps. -/
def runAll (w : World S) (steps : List (Step S (Bench.Order S))) : World S := steps.foldl stepped w

theorem stepped_sections (w : World S) (s : Step S (Bench.Order S)) : Sections w (w.stepped s) := by
  unfold stepped
  cases h : w.run s with
  | none => exact .refl
  | some after =>
    obtain ⟨⟨outcome, w₁⟩, htake, rfl⟩ := Option.map_eq_some_iff.1 h
    exact (take_sections htake).trans (settle_sections w₁)

theorem runAll_sections (w : World S) (steps : List (Step S (Bench.Order S))) :
    Sections w (w.runAll steps) := by
  induction steps generalizing w with
  | nil => exact .refl
  | cons s rest ih => exact (stepped_sections w s).trans (ih _)

theorem Reachable.stepped (hw : Reachable w) (s : Step S (Bench.Order S)) :
    Reachable (w.stepped s) := by
  unfold World.stepped
  cases h : w.run s with
  | none => exact hw
  | some answer => exact hw.run h

theorem Reachable.runAll (hw : Reachable w) (steps : List (Step S (Bench.Order S))) :
    Reachable (w.runAll steps) := by
  induction steps generalizing w with
  | nil => exact hw
  | cons s rest ih => exact ih (hw.stepped s)

end World

end ConnPool
