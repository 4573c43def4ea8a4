import ConnPool.Properties.Reader
import Mathlib.Data.List.Pairwise

/-!
# Assignments in any order

Each assignment sets one `Setting`, and assignments to different settings may be carried out in
either order (`Assignment.apply_comm`). So a list of assignments that sets no setting twice in
different ways has one result, whatever its order (`applyAll_perm`). The assignments that a source
consists of, one for each setting that it has (`Source.assignments`), set each setting in one way
and bring the source about from nothing (`Source.applyAll_assignments`).
-/

namespace ConnPool

/-! ## Driver properties -/

namespace DriverProperties

theorem fst_ne_of_lt {a b : String × String} (h : a.1 < b.1) : a.1 ≠ b.1 :=
  fun heq => String.lt_irrefl b.1 (heq ▸ h)

/-- An insertion puts the new pair in and takes out the old one of the same key. -/
theorem mem_insertSorted_iff {key value : String} {l : List (String × String)}
    (hl : l.Pairwise fun a b => a.1 < b.1) (e : String × String) :
    e ∈ insertSorted key value l ↔ e = (key, value) ∨ (e ∈ l ∧ e.1 ≠ key) := by
  induction l with
  | nil => simp [insertSorted]
  | cons a rest ih =>
    obtain ⟨ha, hrest⟩ := List.pairwise_cons.1 hl
    unfold insertSorted
    by_cases hlt : key < a.1
    · -- the key is below all that is there
      have hne : ∀ b ∈ a :: rest, b.1 ≠ key := by
        intro b hb heq
        rcases List.mem_cons.1 hb with rfl | hb
        · exact String.lt_irrefl _ (heq ▸ hlt)
        · exact String.lt_irrefl _ (heq ▸ String.lt_trans hlt (ha b hb))
      rw [if_pos hlt, List.mem_cons]
      exact or_congr_right ⟨fun h => ⟨h, hne e h⟩, And.left⟩
    · rw [if_neg hlt]
      by_cases heq : key = a.1
      · have hne : ∀ b ∈ rest, b.1 ≠ key := fun b hb => heq ▸ (fst_ne_of_lt (ha b hb)).symm
        rw [if_pos heq, List.mem_cons, List.mem_cons]
        refine or_congr_right ⟨fun h => ⟨.inr h, hne e h⟩, fun h => ?_⟩
        exact h.1.resolve_left fun he => h.2 (he ▸ heq.symm)
      · rw [if_neg heq, List.mem_cons, ih hrest, List.mem_cons]
        by_cases he : e = a
        · subst he
          simp [Ne.symm heq]
        · simp [he]

theorem mem_insert_iff {p : DriverProperties} {key value : String} {e : String × String} :
    e ∈ (p.insert key value).entries ↔ e = (key, value) ∨ (e ∈ p.entries ∧ e.1 ≠ key) :=
  mem_insertSorted_iff p.sorted e

theorem nodup (p : DriverProperties) : p.entries.Nodup :=
  p.sorted.imp fun h heq => fst_ne_of_lt h (congrArg Prod.fst heq)

/-- A name has one value. -/
theorem eq_of_mem (p : DriverProperties) {name v w : String} (hv : (name, v) ∈ p.entries)
    (hw : (name, w) ∈ p.entries) : v = w := by
  by_contra hne
  have : Std.Symm fun a b : String × String => a.1 ≠ b.1 := ⟨fun _ _ h => h.symm⟩
  exact (p.sorted.imp fst_ne_of_lt).forall hv hw (by simpa using hne) rfl

/-- Properties are the same when the same pairs are among them. -/
theorem ext_mem {p q : DriverProperties} (h : ∀ e, e ∈ p.entries ↔ e ∈ q.entries) : p = q := by
  have hperm : p.entries.Perm q.entries :=
    (List.perm_ext_iff_of_nodup p.nodup q.nodup).2 h
  have hentries : p.entries = q.entries :=
    hperm.eq_of_pairwise
      (fun a b _ _ hab hba => absurd (String.lt_trans hab hba) (String.lt_irrefl _))
      p.sorted q.sorted
  cases p
  cases q
  cases hentries
  rfl

theorem insert_comm (p : DriverProperties) {k k' : String} (h : k ≠ k') (v v' : String) :
    (p.insert k v).insert k' v' = (p.insert k' v').insert k v := by
  refine ext_mem fun e => ?_
  simp only [mem_insert_iff]
  by_cases he : e = (k, v)
  · subst he
    simp [h]
  · by_cases he' : e = (k', v')
    · subst he'
      simp [h.symm]
    · simp only [he, he', false_or, and_right_comm]

/-- Of two insertions under one name the later one counts. -/
theorem insert_insert (p : DriverProperties) (k v v' : String) :
    (p.insert k v).insert k v' = p.insert k v' := by
  refine ext_mem fun e => ?_
  simp only [mem_insert_iff]
  refine or_congr_right ⟨fun ⟨hmem, hne⟩ => ?_, fun h => ⟨.inr h, h.2⟩⟩
  exact hmem.resolve_left fun he => hne (congrArg Prod.fst he)

theorem lookup_insertSorted (key value name : String) (l : List (String × String)) :
    (insertSorted key value l).lookup name = if name = key then some value else l.lookup name := by
  induction l with
  | nil =>
    by_cases hname : name = key
    · simp [insertSorted, hname]
    · simp [insertSorted, hname, beq_eq_false_iff_ne.2 hname]
  | cons a rest ih =>
    obtain ⟨k, v⟩ := a
    have hskip : ∀ {k' v' : String} {l : List (String × String)}, name ≠ k' →
        List.lookup name ((k', v') :: l) = l.lookup name := by
      intro k' v' l hne
      rw [List.lookup_cons, beq_eq_false_iff_ne.2 hne]
    unfold insertSorted
    by_cases hname : name = key
    · subst hname
      rw [if_pos rfl]
      split
      · exact List.lookup_cons_self
      · split
        · exact List.lookup_cons_self
        · next hne => rw [hskip hne, ih, if_pos rfl]
    · rw [if_neg hname]
      split
      · exact hskip hname
      · split
        · next heq => rw [hskip hname, hskip fun h => hname (h.trans heq.symm)]
        · rw [List.lookup_cons, List.lookup_cons, ih, if_neg hname]

/-- The value of a property after an insertion. -/
theorem get?_insert (p : DriverProperties) (key value name : String) :
    (p.insert key value).get? name = if name = key then some value else p.get? name :=
  lookup_insertSorted key value name p.entries

/-- What is there after the assignments of a list in which no name occurs twice. -/
theorem mem_foldl_insert {l : List (String × String)} (hl : l.Pairwise fun a b => a.1 < b.1)
    (p : DriverProperties) (e : String × String) :
    e ∈ (l.foldl (fun p e => p.insert e.1 e.2) p).entries ↔
      e ∈ l ∨ (e ∈ p.entries ∧ ∀ a ∈ l, e.1 ≠ a.1) := by
  induction l generalizing p with
  | nil => simp
  | cons a rest ih =>
    obtain ⟨ha, hrest⟩ := List.pairwise_cons.1 hl
    rw [List.foldl_cons, ih hrest, mem_insert_iff, List.mem_cons, List.forall_mem_cons]
    by_cases he : e = a
    · have hne : ∀ b ∈ rest, a.1 ≠ b.1 := fun b hb => fst_ne_of_lt (ha b hb)
      simp only [he, true_or, true_and, iff_true]
      exact .inr hne
    · simp only [he, false_or, and_assoc]

/-- Sorted properties are what their own entries assign. -/
theorem ofList_entries (p : DriverProperties) : ofList p.entries = p :=
  ext_mem fun e => by
    unfold ofList
    rw [mem_foldl_insert p.sorted]
    simp [empty]

end DriverProperties

namespace Properties

/-! ## Settings -/

/-- What an assignment can set. -/
inductive Setting
  | url
  | username
  | password
  | autoCommit
  | networkTimeout
  | isolation
  | driverProperty (name : String)
  | maxActive
  | maxIdle
  | checkoutTimeout
  | waitTimeout
  | badTolerance
  | pingEnabled
  | pingQuery
  | pingThreshold
  | indefiniteWait
  deriving DecidableEq

/-- The setting that an assignment sets, if its key stands for one. -/
def Assignment.setting : Assignment → Option Setting
  | url _ => some .url
  | username _ => some .username
  | password _ => some .password
  | autoCommit _ => some .autoCommit
  | networkTimeout _ => some .networkTimeout
  | isolation _ => some .isolation
  | driverProperty name _ => some (.driverProperty name)
  | maxActive _ => some .maxActive
  | maxIdle _ => some .maxIdle
  | checkoutTimeout _ => some .checkoutTimeout
  | waitTimeout _ => some .waitTimeout
  | badTolerance _ => some .badTolerance
  | pingEnabled _ => some .pingEnabled
  | pingQuery _ => some .pingQuery
  | pingThreshold _ => some .pingThreshold
  | indefiniteWait _ => some .indefiniteWait
  | unknown _ => none

/-- Assignments to different settings may be carried out in either order. -/
theorem Assignment.apply_comm {a b : Assignment} (h : a.setting ≠ b.setting) (s : Source) :
    b.apply (a.apply s) = a.apply (b.apply s) := by
  by_cases hdriver : (∃ n v, a = .driverProperty n v) ∧ ∃ n v, b = .driverProperty n v
  · obtain ⟨⟨n, v, rfl⟩, m, w, rfl⟩ := hdriver
    have hne : n ≠ m := fun e => h (by rw [setting, setting, e])
    simp only [apply, s.target.driverProperties.insert_comm hne]
  · -- any other two assignments write fields of their own
    cases a <;> cases b <;>
      first
      | rfl
      | exact absurd rfl h
      | exact absurd ⟨⟨_, _, rfl⟩, _, _, rfl⟩ hdriver

/-- Of two assignments to one setting the later one counts. -/
theorem Assignment.apply_apply {a b : Assignment} (h : a.setting = b.setting) (s : Source) :
    b.apply (a.apply s) = b.apply s := by
  by_cases hdriver : ∃ n v, a = .driverProperty n v
  · obtain ⟨n, v, rfl⟩ := hdriver
    cases b <;> cases h
    simp only [apply, s.target.driverProperties.insert_insert]
  · -- any other two write one field, or write different ones
    cases a <;> cases b <;>
      first
      | rfl
      | exact absurd ⟨_, _, rfl⟩ hdriver
      | cases h

/-- Carry out a list of assignments. -/
def applyAll (s : Source) (as : List Assignment) : Source := as.foldl (fun s a => a.apply s) s

/-- When no two of them set a setting differently, assignments may be carried out in any order. -/
theorem applyAll_perm {as bs : List Assignment} (hperm : as.Perm bs)
    (h : ∀ a ∈ as, ∀ b ∈ as, a.setting = b.setting → a = b) (s : Source) :
    applyAll s as = applyAll s bs := by
  refine hperm.foldl_eq' (fun a ha b hb s => ?_) s
  by_cases heq : a.setting = b.setting
  · rw [h a ha b hb heq]
  · exact Assignment.apply_comm heq s

/-! ## The setting of a key -/

/-- The setting that a key in lowercase stands for. -/
def Setting.ofKey? (key : String) : Option Setting :=
  match driverName? key with
  | some name => some (.driverProperty name)
  | none =>
    match key with
    | "url" => some .url
    | "username" | "user" => some .username
    | "password" => some .password
    | "auto_commit" | "autocommit" => some .autoCommit
    | "network_timeout_ms" => some .networkTimeout
    | "isolation" | "default_isolation_level" => some .isolation
    | "max_active" => some .maxActive
    | "max_idle" => some .maxIdle
    | "checkout_timeout_ms" => some .checkoutTimeout
    | "wait_timeout_ms" => some .waitTimeout
    | "bad_connection_tolerance" => some .badTolerance
    | "ping_enabled" => some .pingEnabled
    | "ping_query" => some .pingQuery
    | "ping_threshold_ms" => some .pingThreshold
    | "indefinite_wait" => some .indefiniteWait
    | _ => none

theorem valueOf_map_eq_ok {α : Type} {read : String → Option α} {key value : String}
    {assign : α → Assignment} {a : Assignment} (h : (valueOf read key value).map assign = .ok a) :
    ∃ v, a = assign v := by
  unfold valueOf at h
  cases hread : read value with
  | none =>
    rw [hread] at h
    exact nomatch h
  | some v =>
    rw [hread] at h
    exact ⟨v, (Except.ok.inj h).symm⟩

/-- Which setting an assignment sets is said by its key alone. -/
theorem Assignment.setting_of_ofKey {key value : String} {a : Assignment}
    (h : ofKey key value = .ok a) : a.setting = Setting.ofKey? key := by
  unfold ofKey at h
  cases hname : driverName? key with
  | some name =>
    unfold Setting.ofKey?
    simp only [hname] at h ⊢
    cases h
    rfl
  | none =>
    simp only [hname] at h
    -- The keys are told apart before the other side is looked at, which is then decided by each.
    split at h
    all_goals
      unfold Setting.ofKey?
      simp only [hname]
    case h_8 | h_9 =>
      split at h
      · cases h
        rfl
      · cases h
    all_goals
      first
      | cases h; rfl
      | obtain ⟨v, rfl⟩ := valueOf_map_eq_ok h; rfl

/-! ## The assignments of a source -/

/-- One assignment for each setting that a source has: every setting of the pool, the url, each
optional part of the target that is there, and each driver property. -/
def Source.assignments (s : Source) : List Assignment :=
  .url s.target.url ::
    (s.target.username.toList.map .username ++ s.target.password.toList.map .password ++
      s.target.autoCommit.toList.map .autoCommit ++
      s.target.networkTimeout.toList.map .networkTimeout ++
      s.target.isolation.toList.map .isolation ++
      s.target.driverProperties.entries.map (fun e => .driverProperty e.1 e.2) ++
      [.maxActive s.settings.maxActive, .maxIdle s.settings.maxIdle,
        .checkoutTimeout s.settings.checkoutTimeout, .waitTimeout s.settings.waitTimeout,
        .badTolerance s.settings.badTolerance, .pingEnabled s.settings.pingEnabled,
        .pingQuery s.settings.pingQuery, .pingThreshold s.settings.pingThreshold,
        .indefiniteWait s.settings.indefiniteWait])

/-- What a source has for the setting that an assignment sets is the value of the assignment. -/
def Assignment.HoldsIn (s : Source) : Assignment → Prop
  | url v => s.target.url = v
  | username v => s.target.username = some v
  | password v => s.target.password = some v
  | autoCommit v => s.target.autoCommit = some v
  | networkTimeout v => s.target.networkTimeout = some v
  | isolation v => s.target.isolation = some v
  | driverProperty n v => (n, v) ∈ s.target.driverProperties.entries
  | maxActive v => s.settings.maxActive = v
  | maxIdle v => s.settings.maxIdle = v
  | checkoutTimeout v => s.settings.checkoutTimeout = v
  | waitTimeout v => s.settings.waitTimeout = v
  | badTolerance v => s.settings.badTolerance = v
  | pingEnabled v => s.settings.pingEnabled = v
  | pingQuery v => s.settings.pingQuery = v
  | pingThreshold v => s.settings.pingThreshold = v
  | indefiniteWait v => s.settings.indefiniteWait = v
  | unknown _ => False

theorem Source.holdsIn_of_mem {s : Source} {a : Assignment} (h : a ∈ s.assignments) :
    a.HoldsIn s := by
  unfold assignments at h
  simp only [List.mem_cons, List.mem_append, List.mem_map, Option.mem_toList, List.not_mem_nil,
    or_false] at h
  rcases h with rfl | ((((((⟨v, hv, rfl⟩ | ⟨v, hv, rfl⟩) | ⟨v, hv, rfl⟩) | ⟨v, hv, rfl⟩) |
    ⟨v, hv, rfl⟩) | ⟨e, he, rfl⟩) | (rfl | rfl | rfl | rfl | rfl | rfl | rfl | rfl | rfl))
  case inr.inl.inr => exact he
  all_goals first | exact hv | exact rfl

/-- A source has one value for each setting. -/
theorem Source.eq_of_setting_eq {s : Source} {a b : Assignment} (ha : a ∈ s.assignments)
    (hb : b ∈ s.assignments) (h : a.setting = b.setting) : a = b := by
  have ha := s.holdsIn_of_mem ha
  have hb := s.holdsIn_of_mem hb
  cases a <;> cases b <;> cases h
  case driverProperty.driverProperty.refl n v w =>
    exact congrArg _ (s.target.driverProperties.eq_of_mem ha hb)
  all_goals
    first
    | exact congrArg _ (ha.symm.trans hb)
    | exact congrArg _ (Option.some.inj (ha.symm.trans hb))
    | exact ha.elim

theorem applyAll_append (s : Source) (as bs : List Assignment) :
    applyAll s (as ++ bs) = applyAll (applyAll s as) bs := List.foldl_append

/-- The assignments of driver properties touch nothing else. -/
theorem applyAll_driverProperties (s : Source) (l : List (String × String)) :
    applyAll s (l.map fun e => .driverProperty e.1 e.2) =
      { s with
        target.driverProperties :=
          l.foldl (fun p e => p.insert e.1 e.2) s.target.driverProperties } := by
  induction l generalizing s with
  | nil => rfl
  | cons e rest ih => exact ih _

/-- From nothing, its assignments bring a source about. -/
theorem Source.applyAll_assignments (s : Source) : applyAll {} s.assignments = s := by
  obtain ⟨⟨url, username, password, properties, autoCommit, isolation, timeout⟩, settings⟩ := s
  have hproperties := properties.ofList_entries
  unfold DriverProperties.ofList at hproperties
  unfold assignments
  rw [← List.singleton_append]
  simp only [applyAll_append, applyAll_driverProperties]
  cases username <;> cases password <;> cases autoCommit <;> cases timeout <;> cases isolation <;>
    simp [applyAll, Assignment.apply, hproperties]

end Properties

end ConnPool
