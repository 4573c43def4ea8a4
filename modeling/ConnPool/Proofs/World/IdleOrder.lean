import ConnPool.Proofs.Pool.Sifting
import ConnPool.Proofs.World.Accounting

/-!
# The order of the idle list

Returns put connections at the end of the idle list, each under a new handle, and acquires take them
from its front. In between the list can only be emptied as a whole: when the pool is reconfigured,
closed by force or shut down. So whatever the order of events, the handles leave the list in the
order in which they came into it.

A handle is around the same connection for good, so this is the order of the connections as well.

* `Section.idleMove`: what a critical section does to the idle list.
* `Section.grown`: no handle is ever taken out of the table, or gets another connection.
* `Run.lt_of_cameIn`: the handles that came into the list are those of the table, so no handle
  comes twice.

**Theorem (`Run.firstInFirstOut`).** The handles that ever came into the list are those that left
it, followed by those that lie in it now.
-/

namespace ConnPool

open Pool

/-- What an operation does to the idle list. A return puts the connection of the handle there. -/
theorem Yield.idle {n : Nat} {who : Handback} {e e' : Env} {p p' : Pool}
    (y : Yield n who e p e' p') :
    p'.idle = p.idle ∨
      (∃ r, who = .release r ∧ p'.idle = p.idle ++ [p.handles.length] ∧
        (p'.handle p.handles.length).raw = (p.handle r).raw) ∨
      who = .all ∧ p'.idle = [] := by
  cases y with
  | spurn | discard | close | letGo | detach => exact .inl rfl
  | @store _ _ r t e' =>
    have hraw := congrArg Handle.raw <|
      handle_passOn_new (p.timed r t) r .invalid ((p.handle r).data.renew e'.nextHandle).rest
    exact .inr (.inl ⟨r, rfl, rfl, hraw⟩)
  | drain | change | shutDown => simp

section

variable {α : Type} [DecidableEq α] {l m : List α}

theorem filter_notMem_of_subset (h : l ⊆ m) : l.filter (· ∉ m) = [] :=
  List.filter_eq_nil_iff.2 fun a ha => by simpa using h ha

theorem filter_notMem_right (h : (l ++ m).Nodup) : (l ++ m).filter (· ∉ m) = l := by
  have hdisjoint := (List.nodup_append.1 h).2.2
  rw [List.filter_append, filter_notMem_of_subset (List.Subset.refl m), List.append_nil]
  exact List.filter_eq_self.2 fun a ha => by simpa using fun hm => hdisjoint a ha a hm rfl

end

namespace World

variable {S : Type}

/-! ## What comes in and goes out -/

/-- The idle list of pool `n`. -/
def idleOf (w : World S) (n : Nat) : List Ref := (w.pools[n]?.map (·.idle)).getD []

theorem idleOf_eq {w : World S} {n : Nat} {p : Pool} (hn : w.pools[n]? = some p) :
    w.idleOf n = p.idle := by simp [idleOf, hn]

/-- The handles that came into the idle list of pool `n`. -/
def cameIn (n : Nat) (w w' : World S) : List Ref := (w'.idleOf n).filter (· ∉ w.idleOf n)

/-- The handles that went out of the idle list of pool `n`. -/
def wentOut (n : Nat) (w w' : World S) : List Ref := (w.idleOf n).filter (· ∉ w'.idleOf n)

/-- What the critical sections of a run add to a list, one after the other. -/
def along (f : World S → World S → List Ref) (w : World S) (past : List (World S)) : List Ref :=
  (moves w past).reverse.flatMap fun m => f m.1 m.2

theorem along_next (f : World S → World S → List Ref) (w w' : World S) (past : List (World S)) :
    along f w' (w :: past) = along f w past ++ f w w' := by
  simp [along, moves]

theorem along_congr {f g : World S → World S → List Ref} {w : World S} {past : List (World S)}
    (h : ∀ m ∈ moves w past, f m.1 m.2 = g m.1 m.2) : along f w past = along g w past :=
  List.flatMap_congr fun m hm => h m (List.mem_reverse.1 hm)

theorem along_sublist {f g : World S → World S → List Ref} {w : World S} {past : List (World S)}
    (h : ∀ m ∈ moves w past, (f m.1 m.2).Sublist (g m.1 m.2)) :
    (along f w past).Sublist (along g w past) := by
  induction past generalizing w with
  | nil => exact .refl _
  | cons u past ih =>
    rw [along_next, along_next]
    exact (ih fun m hm => h m (List.mem_cons_of_mem _ hm)).append (h (u, w) (List.mem_cons_self ..))

variable [Bench S] {w w' : World S} {n : Nat} {past : List (World S)}

open scoped Classical in
/-- The handles that an acquire took out of the idle list of pool `n`. -/
noncomputable def takenOut (n : Nat) (w w' : World S) : List Ref :=
  if HasTurn n w w' then wentOut n w w' else []

theorem takenOut_sublist (n : Nat) (w w' : World S) :
    (takenOut n w w').Sublist (wentOut n w w') := by
  rw [takenOut]
  split
  · exact .refl _
  · exact List.nil_sublist _

/-! ## One critical section -/

/-- What a critical section does to the idle list of pool `n`. -/
inductive IdleMove (n : Nat) (w w' : World S) : Prop
  | same (h : w'.idleOf n = w.idleOf n)
  /-- An acquire takes some handles from the front. -/
  | takes (out : List Ref) (ht : HasTurn n w w') (h : w.idleOf n = out ++ w'.idleOf n)
  /-- A return puts a new handle at the end, around the connection of the handle that is returned.
  -/
  | puts (t : Nat) (r : Ref) (handle : Handle) (p p' : Pool)
      (hh : w.held? t = some (n, r, handle)) (ha : w.act (.release t) = some (.done, w'))
      (hn : w.pools[n]? = some p) (hn' : w'.pools[n]? = some p')
      (h : w'.idleOf n = p.idle ++ [p.handles.length])
      (hraw : (p'.handle p.handles.length).raw = handle.raw)
  | clears (ha : GivesUpAll n w w') (h : w'.idleOf n = [])

theorem Section.idleMove (hs : Section w w') (hw : Reachable w) (n : Nat) : IdleMove n w w' := by
  cases hn : w.pools[n]? with
  | none =>
    refine .same ?_
    cases hn' : w'.pools[n]? with
    | none => rw [idleOf, idleOf, hn, hn']
    | some p' =>
      obtain ⟨settings, target, rfl⟩ := (hs.blank hw hn).2 p' hn'
      rw [idleOf_eq hn', idleOf, hn]
      rfl
  | some p =>
    by_cases hturn : HasTurn n w w'
    · obtain ⟨t, ht⟩ := hturn
      obtain ⟨phase, turn, p', h⟩ := ht.turned hw hn
      obtain ⟨raised, hseeks⟩ := h.seeks
      obtain ⟨out, hout⟩ := hseeks.idle
      refine .takes out ⟨t, ht⟩ ?_
      rw [idleOf_eq hn, idleOf_eq h.after]
      exact hout.symm
    · obtain ⟨site, hsite, rfl⟩ := exists_site_of_pools hn
      obtain ⟨site', hsite', hyields⟩ := hs.yields hw hsite hturn
      have hidle : w.idleOf n = site.pool.idle := idleOf_eq hn
      have hidle' : w'.idleOf n = site'.pool.idle := idleOf_eq (pools_getElem? hsite')
      rcases hyields with heq | ⟨who, hgives, hy⟩
      · have hpool : site'.pool = site.pool := heq
        exact .same (by rw [hidle, hidle', hpool])
      · rcases hy.idle with h | ⟨r, rfl, h, hraw⟩ | ⟨rfl, h⟩
        · exact .same (hidle'.trans (h.trans hidle.symm))
        · cases hgives with
          | release t _ handle hh ha =>
            obtain ⟨-, s, hs, rfl⟩ := tickets_of_held? hh
            obtain rfl : site = s := Option.some.inj (hsite.symm.trans hs)
            exact .puts t r _ site.pool site'.pool hh ha hn (pools_getElem? hsite')
              (hidle'.trans h) hraw
        · cases hgives with
          | all ha => exact .clears ha (hidle'.trans h)

theorem Section.grown (hs : Section w w') {p : Pool} (hn : w.pools[n]? = some p) :
    ∃ p', w'.pools[n]? = some p' ∧ p.Grown p' := by
  cases hs.shift with
  | aside _ hp => exact ⟨p, hp ▸ hn, .of_handles rfl⟩
  | create _ _ _ _ hp => exact ⟨p, pools_append_of_some hp hn, .of_handles rfl⟩
  | @turn m _ q q' _ _ _ hm hp _ hseeks =>
    by_cases hmn : n = m
    · subst hmn
      obtain rfl : p = q := Option.some.inj (hn.symm.trans hm)
      exact ⟨q', pools_set_self hm hp, hseeks.grown⟩
    · exact ⟨p, pools_set_of_ne hp hmn hn, .of_handles rfl⟩
  | @yield m _ q q' _ hm hp _ hy =>
    by_cases hmn : n = m
    · subst hmn
      obtain rfl : p = q := Option.some.inj (hn.symm.trans hm)
      exact ⟨q', pools_set_self hm hp, hy.grown⟩
    · exact ⟨p, pools_set_of_ne hp hmn hn, .of_handles rfl⟩

theorem Reachable.nodup_idleOf (hw : Reachable w) (n : Nat) : (w.idleOf n).Nodup := by
  cases hn : w.pools[n]? with
  | none => simp [idleOf, hn]
  | some p =>
    rw [idleOf_eq hn]
    have hnodup := (hw.owners.owned n p hn).nodup
    exact (List.nodup_append.1 (List.nodup_append.1 hnodup).2.1).2.1

/-- A new handle is not idle yet. -/
theorem Reachable.notMem_idle (hw : Reachable w) {p : Pool} (hn : w.pools[n]? = some p) :
    p.handles.length ∉ p.idle := fun hr =>
  Nat.lt_irrefl _ ((hw.owners.owned n p hn).lt (mem_live_of_idle hr))

/-- Either nothing came in and what went out was at the front, or a new handle came in at the end
and nothing went out. -/
theorem IdleMove.flow (h : IdleMove n w w') (hw : Reachable w) :
    cameIn n w w' = [] ∧ wentOut n w w' ++ w'.idleOf n = w.idleOf n ∨
      ∃ p, w.pools[n]? = some p ∧ cameIn n w w' = [p.handles.length] ∧ wentOut n w w' = [] ∧
        w'.idleOf n = w.idleOf n ++ [p.handles.length] := by
  cases h with
  | same h =>
    refine .inl ⟨?_, ?_⟩
    · rw [cameIn, h, filter_notMem_of_subset (List.Subset.refl _)]
    · rw [wentOut, h, filter_notMem_of_subset (List.Subset.refl _), List.nil_append]
  | takes out _ h =>
    refine .inl ⟨?_, ?_⟩
    · rw [cameIn, h, filter_notMem_of_subset (List.subset_append_right ..)]
    · have hnodup := hw.nodup_idleOf n
      rw [h] at hnodup
      rw [wentOut, h, filter_notMem_right hnodup]
  | puts _ _ _ p _ _ _ hn _ h =>
    rw [← idleOf_eq hn] at h
    have hnew := hw.notMem_idle hn
    rw [← idleOf_eq hn] at hnew
    refine .inr ⟨p, hn, ?_, ?_, h⟩
    · rw [cameIn, h, List.filter_append, filter_notMem_of_subset (List.Subset.refl _)]
      simp [hnew]
    · rw [wentOut, h, filter_notMem_of_subset (List.subset_append_left ..)]
  | clears _ h => exact .inl ⟨by simp [cameIn, h], by simp [wentOut, h]⟩

/-- What was in the list, followed by what came in, is what went out, followed by what is in the
list. -/
theorem IdleMove.balance (h : IdleMove n w w') (hw : Reachable w) :
    w.idleOf n ++ cameIn n w w' = wentOut n w w' ++ w'.idleOf n := by
  rcases h.flow hw with ⟨hcame, hrest⟩ | ⟨p, -, hcame, hwent, hrest⟩
  · rw [hcame, hrest, List.append_nil]
  · rw [hcame, hwent, hrest, List.nil_append]

/-- Only acquires take handles out of the list, unless the pool gives up all connections. -/
theorem IdleMove.takenOut_eq (h : IdleMove n w w') (hno : ¬GivesUpAll n w w') :
    takenOut n w w' = wentOut n w w' := by
  rw [takenOut]
  split
  · rfl
  · next hturn =>
    cases h with
    | same h => rw [wentOut, h, filter_notMem_of_subset (List.Subset.refl _)]
    | takes _ ht => exact absurd ht hturn
    | puts _ _ _ _ _ _ _ hn _ h =>
      rw [wentOut, h, idleOf_eq hn, filter_notMem_of_subset (List.subset_append_left ..)]
    | clears ha => exact absurd ha hno

/-! ## Runs -/

/-- What came in are handles of the table. -/
theorem Run.lt_of_cameIn (hr : Run w past) {r : Ref} (hin : r ∈ along (cameIn n) w past) :
    ∃ p, w.pools[n]? = some p ∧ r < p.handles.length := by
  induction hr with
  | start => exact absurd hin List.not_mem_nil
  | @next w w' past hr hs ih =>
    rw [along_next] at hin
    rcases List.mem_append.1 hin with hin | hin
    · obtain ⟨p, hn, hlt⟩ := ih hin
      obtain ⟨p', hn', hgrown⟩ := hs.grown hn
      exact ⟨p', hn', Nat.lt_of_lt_of_le hlt hgrown.length⟩
    · have hmem : r ∈ w'.idleOf n := List.mem_of_mem_filter hin
      have hw' : Reachable w' := hr.reachable.tail hs
      cases hn' : w'.pools[n]? with
      | none => simp [idleOf, hn'] at hmem
      | some p' =>
        rw [idleOf_eq hn'] at hmem
        exact ⟨p', rfl, (hw'.owners.owned n p' hn').lt (mem_live_of_idle hmem)⟩

/-- No handle comes into the idle list twice. -/
theorem Run.nodup_cameIn (hr : Run w past) (n : Nat) : (along (cameIn n) w past).Nodup := by
  induction hr with
  | start => exact .nil
  | @next w w' past hr hs ih =>
    rw [along_next]
    rcases (hs.idleMove hr.reachable n).flow hr.reachable with ⟨hcame, -⟩ | ⟨p, hn, hcame, -⟩
    · rw [hcame, List.append_nil]
      exact ih
    · rw [hcame]
      refine ih.append (List.nodup_singleton _) ?_
      simp only [List.disjoint_singleton]
      intro hin
      obtain ⟨q, hq, hlt⟩ := hr.lt_of_cameIn hin
      obtain rfl : p = q := Option.some.inj (hn.symm.trans hq)
      exact Nat.lt_irrefl _ hlt

/-- The idle list of pool `n` in a run that led to a world. -/
structure FirstInFirstOut (n : Nat) (w : World S) (past : List (World S)) : Prop where
  /-- Handles come in at the end, by returns only. They go out from the front, by acquires only,
  unless the whole list is cleared. -/
  moves : ∀ m ∈ World.moves w past, IdleMove n m.1 m.2
  /-- A handle is around the same connection in all of them. -/
  around : ∀ m ∈ World.moves w past, ∀ p ∈ m.1.pools[n]?, ∃ p' ∈ m.2.pools[n]?, p.Grown p'
  nodup : (along (cameIn n) w past).Nodup
  order : along (cameIn n) w past = along (wentOut n) w past ++ w.idleOf n
  /-- Acquires took some of them, in the same order. -/
  taken : (along (takenOut n) w past).Sublist (along (wentOut n) w past)
  /-- They took all of them if the list was never cleared. -/
  takenAll : (∀ m ∈ World.moves w past, ¬GivesUpAll n m.1 m.2) →
    along (takenOut n) w past = along (wentOut n) w past

/-- Every run keeps the order of the idle list. -/
theorem Run.firstInFirstOut (hr : Run w past) (n : Nat) : FirstInFirstOut n w past := by
  have hmoves : ∀ m ∈ World.moves w past, IdleMove n m.1 m.2 := fun m hm =>
    (hr.of_mem_moves hm).2.1.idleMove (hr.of_mem_moves hm).1 n
  constructor
  case moves => exact hmoves
  case around => exact fun m hm p hn => (hr.of_mem_moves hm).2.1.grown hn
  case nodup => exact hr.nodup_cameIn n
  case order =>
    clear hmoves
    induction hr with
    | start => rfl
    | @next w w' past hr hs ih =>
      have hbalance := (hs.idleMove hr.reachable n).balance hr.reachable
      rw [along_next, along_next, ih, List.append_assoc, List.append_assoc, hbalance]
  case taken => exact along_sublist fun m _ => takenOut_sublist n m.1 m.2
  case takenAll =>
    intro hno
    exact along_congr fun m hm => (hmoves m hm).takenOut_eq (hno m hm)

end World

end ConnPool
