import ConnPool.Pool.Basic
import Mathlib.Data.List.Nodup

/-!
# The table of handles

A pool never takes a handle out of its table. It retires handles, adds new ones at the end, and
changes the data of one. Each such change has a lemma here for the handle that it is about and one
for the others, so that no later proof looks at the table as a list.
-/

namespace ConnPool.Pool

/-! ## One handle -/

theorem handle_of_length_le {p : Pool} {r : Ref} (h : p.handles.length ≤ r) :
    p.handle r = default := by
  rw [handle, List.getD_eq_getElem?_getD, List.getElem?_eq_none h]
  rfl

theorem handle_eq_getElem {p : Pool} {r : Ref} (h : r < p.handles.length) :
    p.handle r = p.handles[r] := by
  simp [handle, List.getD_eq_getElem?_getD, h]

theorem lt_of_valid {p : Pool} {r : Ref} (h : (p.handle r).valid = true) :
    r < p.handles.length := by
  by_contra hr
  rw [handle_of_length_le (Nat.le_of_not_lt hr)] at h
  exact Bool.false_ne_true h

theorem length_withHandle (p : Pool) (r : Ref) (f : Handle → Handle) :
    (p.withHandle r f).handles.length = p.handles.length := List.length_modify ..

theorem handle_withHandle_ne (p : Pool) {r s : Ref} (f : Handle → Handle) (h : s ≠ r) :
    (p.withHandle r f).handle s = p.handle s := by
  simp only [handle, withHandle, List.getD_eq_getElem?_getD, List.getElem?_modify, if_neg h.symm]
  simp

theorem handle_withHandle_self {p : Pool} {r : Ref} (f : Handle → Handle)
    (h : r < p.handles.length) : (p.withHandle r f).handle r = f (p.handle r) := by
  simp [handle, withHandle, List.getD_eq_getElem?_getD, h]

/-- A retired handle is not valid; of the others, those stay valid that are. -/
theorem valid_retire {p : Pool} {r s : Ref} {state : HandleState} :
    ((p.withHandle r (·.retire state)).handle s).valid = true ↔
      (p.handle s).valid = true ∧ s ≠ r := by
  by_cases hs : s = r
  · subst hs
    refine ⟨fun h => ?_, fun h => absurd rfl h.2⟩
    have hlt := lt_of_valid h
    rw [length_withHandle] at hlt
    rw [handle_withHandle_self _ hlt] at h
    exact absurd h Bool.false_ne_true
  · rw [handle_withHandle_ne _ _ hs]
    exact ⟨fun h => ⟨h, hs⟩, And.left⟩

/-- A change of a handle that leaves a part of it alone leaves that part of every handle alone. -/
theorem part_withHandle {α : Type} (part : Handle → α) (p : Pool) (r s : Ref) {f : Handle → Handle}
    (hf : ∀ h, part (f h) = part h) :
    part ((p.withHandle r f).handle s) = part (p.handle s) := by
  by_cases hs : s = r
  · subst hs
    rcases Nat.lt_or_ge s p.handles.length with hlt | hge
    · rw [handle_withHandle_self _ hlt, hf]
    · rw [handle_of_length_le hge, handle_of_length_le]
      rwa [length_withHandle]
  · rw [handle_withHandle_ne _ _ hs]

/-- It leaves the list of those parts alone, too. -/
theorem map_withHandle {α : Type} (part : Handle → α) (p : Pool) (r : Ref) {f : Handle → Handle}
    (hf : ∀ h, part (f h) = part h) :
    (p.withHandle r f).handles.map part = p.handles.map part := by
  refine List.ext_getElem? fun i => ?_
  simp only [withHandle, List.getElem?_map, List.getElem?_modify]
  cases p.handles[i]? with
  | none => rfl
  | some h => by_cases hi : r = i <;> simp [hi, hf]

theorem raw_retire (p : Pool) (r s : Ref) (state : HandleState) :
    ((p.withHandle r (·.retire state)).handle s).raw = (p.handle s).raw :=
  part_withHandle Handle.raw p r s fun _ => rfl

theorem handle_congr {p p' : Pool} (h : p'.handles = p.handles) (r : Ref) :
    p'.handle r = p.handle r := by
  rw [handle, h]
  rfl

/-! ## A new handle -/

/-- The pool with one more handle at the end of its table. -/
def add (p : Pool) (h : Handle) : Pool := { p with handles := p.handles ++ [h] }

theorem length_add (p : Pool) (h : Handle) :
    (p.add h).handles.length = p.handles.length + 1 := by simp [add]

theorem handle_add_self (p : Pool) (h : Handle) : (p.add h).handle p.handles.length = h := by
  simp [handle, add, List.getD_eq_getElem?_getD]

theorem handle_add_ne (p : Pool) (h : Handle) {s : Ref} (hs : s ≠ p.handles.length) :
    (p.add h).handle s = p.handle s := by
  rcases Nat.lt_or_gt_of_ne hs with hs | hs
  · simp [handle, add, List.getD_eq_getElem?_getD, List.getElem?_append_left hs]
  · rw [handle_of_length_le (p := p.add h) (by rw [length_add]; exact hs),
      handle_of_length_le (Nat.le_of_lt hs)]

theorem withHandle_add_self (p : Pool) (h : Handle) (f : Handle → Handle) :
    (p.add h).withHandle p.handles.length f = p.add (f h) := by
  have hlist : (p.handles ++ [h]).modify p.handles.length f = p.handles ++ [f h] := by
    rw [List.modify_eq_take_cons_drop (by simp)]
    simp
  rw [withHandle, add, add, hlist]

theorem withHandle_add (p : Pool) (h : Handle) {r : Ref} (f : Handle → Handle)
    (hr : r < p.handles.length) : (p.add h).withHandle r f = (p.withHandle r f).add h := by
  have hlist : (p.handles ++ [h]).modify r f = p.handles.modify r f ++ [h] := by
    have hr' : r < (p.handles ++ [h]).length := by
      rw [List.length_append]
      exact Nat.lt_add_right _ hr
    rw [List.modify_eq_take_cons_drop hr', List.modify_eq_take_cons_drop hr,
      List.take_append_of_le_length (Nat.le_of_lt hr), List.drop_append_of_le_length hr,
      List.getElem_append_left hr]
    simp
  rw [withHandle, add, add, withHandle, hlist]

/-- The pool after the raw connection of a handle passed on to a new handle. -/
def passOn (p : Pool) (r : Ref) (state : HandleState) (data : Metadata) : Pool :=
  (p.withHandle r (·.retire state)).add ⟨(p.handle r).raw, true, data⟩

theorem length_passOn (p : Pool) (r : Ref) (state : HandleState) (data : Metadata) :
    (p.passOn r state data).handles.length = p.handles.length + 1 := by
  rw [passOn, length_add, length_withHandle]

theorem handle_passOn_new (p : Pool) (r : Ref) (state : HandleState) (data : Metadata) :
    (p.passOn r state data).handle p.handles.length = ⟨(p.handle r).raw, true, data⟩ := by
  rw [passOn, ← length_withHandle p r (·.retire state), handle_add_self]

theorem handle_passOn_ne (p : Pool) {r s : Ref} (state : HandleState) (data : Metadata)
    (hr : s ≠ r) (hs : s ≠ p.handles.length) :
    (p.passOn r state data).handle s = p.handle s := by
  rw [passOn, handle_add_ne, handle_withHandle_ne _ _ hr]
  rwa [length_withHandle]

/-- Every handle that is there keeps its raw connection, the one it passed on included. -/
theorem raw_passOn (p : Pool) (r : Ref) (state : HandleState) (data : Metadata) {s : Ref}
    (hs : s < p.handles.length) : ((p.passOn r state data).handle s).raw = (p.handle s).raw := by
  rw [passOn, handle_add_ne, raw_retire]
  rw [length_withHandle]
  exact Nat.ne_of_lt hs

/-! ## Many handles -/

/-- The pool with some handles retired. -/
def retireAll (p : Pool) (state : HandleState) (rs : List Ref) : Pool :=
  rs.foldl (fun p r => p.withHandle r (·.retire state)) p

/-- Nothing but the table changes. -/
theorem retireAll_eq (p : Pool) (state : HandleState) (rs : List Ref) :
    p.retireAll state rs = { p with handles := (p.retireAll state rs).handles } := by
  induction rs generalizing p with
  | nil => rfl
  | cons r rs ih => exact ih _

/-- What becomes of the table depends on nothing else. -/
theorem handles_retireAll {p q : Pool} (h : p.handles = q.handles) (state : HandleState)
    (rs : List Ref) : (p.retireAll state rs).handles = (q.retireAll state rs).handles := by
  induction rs generalizing p q with
  | nil => exact h
  | cons r rs ih =>
    refine ih (p := p.withHandle r (·.retire state)) (q := q.withHandle r (·.retire state)) ?_
    rw [withHandle, withHandle, h]

theorem length_retireAll (p : Pool) (state : HandleState) (rs : List Ref) :
    (p.retireAll state rs).handles.length = p.handles.length := by
  induction rs generalizing p with
  | nil => rfl
  | cons r rs ih => exact (ih _).trans (length_withHandle p r _)

theorem valid_retireAll {p : Pool} (state : HandleState) {rs : List Ref} {s : Ref} :
    ((p.retireAll state rs).handle s).valid = true ↔ (p.handle s).valid = true ∧ s ∉ rs := by
  induction rs generalizing p with
  | nil => simp [retireAll]
  | cons r rs ih =>
    change ((retireAll _ state rs).handle s).valid = true ↔ _
    rw [ih, valid_retire, List.mem_cons, not_or, and_assoc]

theorem handle_retireAll_of_notMem {p : Pool} {state : HandleState} {rs : List Ref} {s : Ref}
    (hs : s ∉ rs) : (p.retireAll state rs).handle s = p.handle s := by
  induction rs generalizing p with
  | nil => rfl
  | cons r rs ih =>
    rw [List.mem_cons, not_or] at hs
    exact (ih hs.2).trans (handle_withHandle_ne p _ hs.1)

/-- To retire a handle once more in the same way changes nothing. -/
theorem handle_retireAll_of_mem {p : Pool} {state : HandleState} {rs : List Ref} {s : Ref}
    (hs : s ∈ rs) (hlt : s < p.handles.length) :
    (p.retireAll state rs).handle s = (p.handle s).retire state := by
  induction rs generalizing p with
  | nil => exact absurd hs List.not_mem_nil
  | cons r rs ih =>
    change (retireAll (p.withHandle r (·.retire state)) state rs).handle s = _
    by_cases hmem : s ∈ rs
    · rw [ih hmem (by rwa [length_withHandle])]
      by_cases heq : s = r
      · subst heq
        rw [handle_withHandle_self _ hlt]
        rfl
      · rw [handle_withHandle_ne _ _ heq]
    · obtain rfl : s = r := (List.mem_cons.1 hs).resolve_right hmem
      rw [handle_retireAll_of_notMem hmem, handle_withHandle_self _ hlt]

theorem part_retireAll {α : Type} (part : Handle → α) (p : Pool) {state : HandleState}
    (rs : List Ref) (s : Ref) (hpart : ∀ h, part (h.retire state) = part h) :
    part ((p.retireAll state rs).handle s) = part (p.handle s) := by
  induction rs generalizing p with
  | nil => rfl
  | cons r rs ih => exact (ih _).trans (part_withHandle part p r s hpart)

theorem map_retireAll {α : Type} (part : Handle → α) (p : Pool) {state : HandleState}
    (rs : List Ref) (hpart : ∀ h, part (h.retire state) = part h) :
    (p.retireAll state rs).handles.map part = p.handles.map part := by
  induction rs generalizing p with
  | nil => rfl
  | cons r rs ih => exact (ih _).trans (map_withHandle part p r hpart)

/-! ## Tables over time -/

/-- The table of `p'` is that of `p` at a later time: each handle is still there, and is around the
same raw connection. -/
structure Grown (p p' : Pool) : Prop where
  length : p.handles.length ≤ p'.handles.length
  raw : ∀ r < p.handles.length, (p'.handle r).raw = (p.handle r).raw

namespace Grown

variable {p p₁ p' : Pool}

theorem of_handles (h : p'.handles = p.handles) : p.Grown p' :=
  ⟨Nat.le_of_eq (congrArg List.length h.symm), fun r _ => by rw [handle_congr h]⟩

theorem trans (h₁ : p.Grown p₁) (h₂ : p₁.Grown p') : p.Grown p' :=
  ⟨Nat.le_trans h₁.length h₂.length, fun r hr =>
    (h₂.raw r (Nat.lt_of_lt_of_le hr h₁.length)).trans (h₁.raw r hr)⟩

theorem withHandle (p : Pool) (r : Ref) {f : Handle → Handle} (hf : ∀ h, (f h).raw = h.raw) :
    p.Grown (p.withHandle r f) :=
  ⟨Nat.le_of_eq (length_withHandle p r f).symm, fun s _ => part_withHandle Handle.raw p r s hf⟩

theorem add (p : Pool) (h : Handle) : p.Grown (p.add h) :=
  ⟨by rw [length_add]; exact Nat.le_succ _, fun r hr => by
    rw [handle_add_ne p h (Nat.ne_of_lt hr)]⟩

theorem passOn (p : Pool) (r : Ref) (state : HandleState) (data : Metadata) :
    p.Grown (p.passOn r state data) :=
  ⟨by rw [length_passOn]; exact Nat.le_succ _, fun _ => raw_passOn p r state data⟩

end Grown

end ConnPool.Pool
