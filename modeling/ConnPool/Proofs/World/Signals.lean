import ConnPool.Proofs.World.Happens

/-!
# Interrupt handles and their flags

An interrupt handle names a pool and a flag, and its clones name the same ones. A critical section
does at most one thing to handles and flags (`Signals`), and a turn of an acquire does nothing to
them. So an acquire that is blocked can be followed by the flag that it was started with.

* `Section.signals`: every critical section does one of these things, or none.
* `Run.raised`: a flag that is raised was raised by one of its handles.
* `Reachable.flagged`: handles that share a flag are of one pool, and a blocked acquire has the flag
  of a handle of the pool that it waits for.

**Theorem (`Reachable.heeded`).** An acquire that is blocked while its flag is raised was woken.
-/

namespace ConnPool.World

open Pool

variable {S : Type}

/-! ## Flags -/

/-- The flag of the interrupt handle that a demand names. -/
def flagOf (w : World S) : Demand → Option Nat
  | .interruptible i => w.interrupts[i]?.map (·.flag)
  | .ordinary | .loggedIn .. => none

theorem flagOf_congr {w w' : World S} (h : w'.interrupts = w.interrupts) (d : Demand) :
    w'.flagOf d = w.flagOf d := by
  cases d with
  | ordinary | loggedIn => rfl
  | interruptible i => rw [flagOf, h, flagOf]

theorem isRaised_congr {w w' : World S} (h : w'.flags = w.flags) (flag : Option Nat) :
    w'.isRaised flag = w.isRaised flag := by
  rw [isRaised, h, isRaised]

/-- A new flag is not raised, as one that is not there. -/
theorem isRaised_make {w w' : World S} (h : w'.flags = w.flags ++ [false]) (flag : Option Nat) :
    w'.isRaised flag = w.isRaised flag := by
  cases flag with
  | none => rfl
  | some f =>
    simp only [isRaised, h, Option.bind_some]
    rcases Nat.lt_trichotomy f w.flags.length with hlt | rfl | hgt
    · rw [List.getElem?_append_left hlt]
    · rw [List.getElem?_concat_length, List.getElem?_eq_none (Nat.le_refl _)]
      rfl
    · rw [List.getElem?_eq_none (Nat.le_of_lt hgt), List.getElem?_eq_none]
      rw [List.length_append]
      exact hgt

theorem isRaised_setFlag_ne (w : World S) {x : Interrupt} (on : Bool) {flag : Option Nat}
    (h : flag ≠ some x.flag) : (w.setFlag x on).isRaised flag = w.isRaised flag := by
  cases flag with
  | none => rfl
  | some f =>
    have hne : x.flag ≠ f := fun heq => h (congrArg some heq.symm)
    simp only [isRaised, setFlag, Option.bind_some, List.getElem?_set_ne hne]

theorem isRaised_setFlag_self {w : World S} {x : Interrupt} (on : Bool)
    (h : x.flag < w.flags.length) : (w.setFlag x on).isRaised (some x.flag) = on := by
  simp only [isRaised, setFlag, Option.bind_some, List.getElem?_set_self h]
  rfl

/-! ## What a critical section does to them -/

/-- The handles and the flags are the same. An acquire that falls asleep finds its flag down. -/
structure Unsignalled (w w' : World S) : Prop where
  interrupts : w'.interrupts = w.interrupts
  flags : w'.flags = w.flags
  asleep : ∀ v ∈ w'.waiters, v.woken = false → v ∈ w.waiters ∨ w.isRaised v.flag = false

/-- An acquire that falls asleep is not to be interrupted. -/
theorem down_of_sleep {n : Nat} {raised : Bool} {g : Stage} {e : Env} {p : Pool} {a : Acquire}
    {d : Span} (hs : Seeks n raised g ⟨e, p, .ended (.sleep a d)⟩) (hstart : g.phase.Starts) :
    raised = false := by
  obtain ⟨g₁, -, st⟩ := hs.last hstart
  cases st with
  | sleep _ hr => exact hr

/-- A turn of an acquire touches no interrupt handle. -/
theorem Unsignalled.turn {w w' : World S} {t n : Nat} {flag : Option Nat} {site : Site S}
    {phase : Phase} {turn : Turn} {s : Scene S} {tickets : List Ticket} {waiters : List Waiter}
    (hphase : phase.Starts)
    (hs : Seeks n (w.isRaised flag) ⟨w.env, site.pool, phase⟩ ⟨s.env, s.pool, .ended turn⟩)
    (hv : ∀ v ∈ waiters, v ∈ w.waiters)
    (hw : w' = ({ w with tickets, waiters }.after n site s).endTurn t n flag turn) :
    Unsignalled w w' := by
  subst hw
  constructor
  case interrupts => cases turn <;> rfl
  case flags => cases turn <;> rfl
  case asleep =>
    intro v hin _
    rcases mem_endTurn hin with hin | ⟨-, -, hflag, -, -, d, hturn, -⟩
    · exact .inl (hv v hin)
    · subst hturn
      exact .inr (hflag ▸ down_of_sleep hs hphase)

variable [Bench S] {w w' : World S} {n f : Nat}

theorem start_unsignalled (w : World S) (n : Nat) (login : Option (String × String))
    (flag : Option Nat) : Unsignalled w (w.start n login flag) := by
  cases hn : w.sites[n]? with
  | none =>
    rw [start_none hn]
    exact ⟨rfl, rfl, fun _ hv _ => .inl hv⟩
  | some site =>
    obtain ⟨turn, s, heq, hseeks⟩ := start_turns hn login flag
    have hstarts : (Phase.seeking { login, started := w.env.now }).Starts := trivial
    exact .turn hstarts hseeks (fun _ hv => hv) heq

theorem resume_unsignalled {v : Waiter} (hn : v.site < w.sites.length) :
    Unsignalled w (w.resume v) := by
  obtain ⟨turn, s, heq, hseeks⟩ := resume_turns (List.getElem?_eq_getElem hn)
  have hstarts : (Phase.woken v.began v.acquire).Starts := trivial
  exact .turn hstarts hseeks (fun u hu => (mem_without.1 hu).1) heq

theorem demand_flag {d : Demand} (h : w.demand n d = some w') :
    (w' = w.start n d.login (w.flagOf d) ∧
      ∀ f, w.flagOf d = some f → (⟨n, f⟩ : Interrupt) ∈ w.interrupts) ∨
    ∃ cause, w' = w.refuse n (.configuration cause) := by
  cases d with
  | ordinary | loggedIn =>
    cases h
    exact .inl ⟨rfl, nofun⟩
  | interruptible i =>
    obtain ⟨x, hx, heq⟩ := Option.map_eq_some_iff.1 h
    have hflag : w.flagOf (.interruptible i) = some x.flag := by rw [flagOf, hx, Option.map_some]
    split at heq
    · next hsite =>
      subst heq
      refine .inl ⟨by rw [hflag]; rfl, fun f hf => ?_⟩
      cases hflag.symm.trans hf
      exact hsite ▸ List.mem_of_getElem? hx
    · exact .inr ⟨_, heq.symm⟩

/-- A critical section does one thing to the interrupt handles, or none. -/
theorem Section.signals (hs : Section w w') (hw : Reachable w) :
    Unsignalled w w' ∨ Signals w w' := by
  cases hs.happens hw with
  | aside h => exact .inl ⟨h.interrupts, h.flags, fun v hv _ => .inl (h.waiters ▸ hv)⟩
  | signal h => exact .inr h
  | talk _ _ hw' =>
    subst hw'
    exact .inl ⟨rfl, rfl, fun _ hv _ => .inl hv⟩
  | @yield m site _ s _ _ hw' =>
    have hwoken := (Beside.refl (w.after m site s)).wakeAll m
    rw [hw']
    exact .inl ⟨rfl, rfl, fun v hv hasleep => .inl (hwoken.waiting v hv hasleep)⟩
  | turn _ hphase hseeks hv hw' => exact .inl (.turn hphase hseeks hv hw')

/-! ## Handles of one flag -/

/-- Handles are kept, and so is what they name. -/
theorem Section.interrupts (hs : Section w w') (hw : Reachable w) {i : Nat} {x : Interrupt}
    (hx : w.interrupts[i]? = some x) : w'.interrupts[i]? = some x := by
  have hlt := (List.getElem?_eq_some_iff.1 hx).1
  rcases hs.signals hw with h | h
  · exact h.interrupts ▸ hx
  · cases h with
    | make n hi | clone _ _ hi =>
      rw [hi, List.getElem?_append_left hlt]
      exact hx
    | raise _ _ _ _ heq | lower _ _ _ heq =>
      rw [heq]
      exact hx

theorem Sections.interrupts {w w' : World S} (hs : Sections w w') (hw : Reachable w) {i : Nat}
    {x : Interrupt} (hx : w.interrupts[i]? = some x) : w'.interrupts[i]? = some x := by
  induction hs with
  | refl => exact hx
  | tail hs st ih => exact st.interrupts (hw.trans hs) ih

/-- Handles that share a flag are of one pool, and the blocked acquires have flags of handles of the
pools that they wait for. -/
structure Flagged (w : World S) : Prop where
  lt : ∀ x ∈ w.interrupts, x.flag < w.flags.length
  site : ∀ x ∈ w.interrupts, ∀ y ∈ w.interrupts, x.flag = y.flag → x.site = y.site
  blocked : ∀ v ∈ w.waiters, ∀ f, v.flag = some f → (⟨v.site, f⟩ : Interrupt) ∈ w.interrupts

namespace Flagged

/-- The blocked acquires have flags of handles that were there before. -/
theorem comes (h : Flagged w) (hw : Reachable w) (hs : Section w w') {v : Waiter}
    (hv : v ∈ w'.waiters) (hf : v.flag = some f) : (⟨v.site, f⟩ : Interrupt) ∈ w.interrupts := by
  have hcalm : Calm w w' → (⟨v.site, f⟩ : Interrupt) ∈ w.interrupts := by
    intro hc
    obtain ⟨u, hu, heq⟩ := hc.comes hv
    obtain ⟨-, hsite, hflag, -⟩ := Waiter.of_asleep_eq heq
    rw [← hsite]
    exact h.blocked u hu f (hflag.trans hf)
  cases hs with
  | step s hs hstep => exact hcalm (takeOne_calm hs hstep)
  | pass t => exact hcalm (.of_same rfl rfl (Nat.le_refl _))
  | @resume u hu =>
    obtain ⟨turn, s, heq, -⟩ := resume_turns (List.getElem?_eq_getElem (hw.queued.site u hu))
    rcases mem_endTurn (heq ▸ hv) with hv | ⟨-, hsite, hflag, -⟩
    · exact h.blocked v (mem_without.1 hv).1 f hf
    · rw [hsite]
      exact h.blocked u hu f (hflag.symm.trans hf)
  | start n d hn hd =>
    rcases demand_flag hd with ⟨rfl, hown⟩ | ⟨cause, rfl⟩
    · obtain ⟨site, hsite⟩ := Option.isSome_iff_exists.1 hn
      obtain ⟨turn, s, heq, -⟩ :=
        start_turns (Option.filter_eq_some_iff.1 hsite).1 d.login (w.flagOf d)
      rcases mem_endTurn (heq ▸ hv) with hv | ⟨-, hsite, hflag, -⟩
      · exact h.blocked v hv f hf
      · rw [hsite]
        exact hown f (hflag.symm.trans hf)
    · exact h.blocked v hv f hf

/-- A new handle has a flag that no other one has, and a clone is of the same pool. -/
theorem signal (h : Flagged w) (hs : Signals w w')
    (hblocked : ∀ v ∈ w'.waiters, ∀ f, v.flag = some f →
      (⟨v.site, f⟩ : Interrupt) ∈ w'.interrupts) : Flagged w' := by
  cases hs with
  | make n hi hf =>
    have hne : ∀ x ∈ w.interrupts, x.flag ≠ w.flags.length := fun x hx =>
      Nat.ne_of_lt (h.lt x hx)
    have hcases : ∀ x ∈ w'.interrupts, x ∈ w.interrupts ∨ x = ⟨n, w.flags.length⟩ := by
      intro x hx
      rw [hi] at hx
      exact (List.mem_append.1 hx).imp_right List.mem_singleton.1
    refine ⟨fun x hx => ?_, fun x hx y hy heq => ?_, hblocked⟩
    · rw [hf, List.length_append]
      rcases hcases x hx with hx | rfl
      · exact Nat.lt_add_right _ (h.lt x hx)
      · exact Nat.lt_succ_self _
    · rcases hcases x hx with hx | rfl <;> rcases hcases y hy with hy | rfl
      · exact h.site x hx y hy heq
      · exact absurd heq (hne x hx)
      · exact absurd heq.symm (hne y hy)
      · rfl
  | clone x hx hi hf =>
    have hcases : ∀ y ∈ w'.interrupts, y ∈ w.interrupts := by
      intro y hy
      rw [hi] at hy
      rcases List.mem_append.1 hy with hy | hy
      · exact hy
      · rwa [List.mem_singleton.1 hy]
    exact ⟨fun y hy => hf ▸ h.lt y (hcases y hy),
      fun y hy z hz => h.site y (hcases y hy) z (hcases z hz), hblocked⟩
  | raise _ _ _ _ heq | lower _ _ _ heq =>
    subst heq
    exact ⟨fun y hy => Nat.lt_of_lt_of_eq (h.lt y hy) (List.length_set ..).symm, h.site, hblocked⟩

end Flagged

theorem Reachable.flagged (hw : Reachable w) : Flagged w := by
  induction hw with
  | refl =>
    exact ⟨fun _ h => absurd h List.not_mem_nil, fun _ h => absurd h List.not_mem_nil,
      fun _ h => absurd h List.not_mem_nil⟩
  | @tail w w' hw hs ih =>
    replace hw : Reachable w := hw
    have hblocked : ∀ v ∈ w'.waiters, ∀ f, v.flag = some f →
        (⟨v.site, f⟩ : Interrupt) ∈ w'.interrupts := by
      intro v hv f hf
      obtain ⟨i, hi⟩ := List.mem_iff_getElem?.1 (ih.comes hw hs hv hf)
      exact List.mem_of_getElem? (hs.interrupts hw hi)
    rcases hs.signals hw with h | h
    · exact ⟨h.interrupts ▸ h.flags ▸ ih.lt, h.interrupts ▸ ih.site, hblocked⟩
    · exact ih.signal h hblocked

/-! ## Flags that are raised -/

/-- An interrupt handle with flag `f` is raised. -/
def Raises (f : Nat) (w w' : World S) : Prop :=
  ∃ i x, w.interrupts[i]? = some x ∧ x.flag = f ∧ w.act (.interrupt i) = some (.done, w')

/-- A flag that is raised was raised by a caller who had a handle with it. -/
theorem Run.raised {past : List (World S)} (hr : Run w past)
    (h : w.isRaised (some f) = true) : ∃ m ∈ moves w past, Raises f m.1 m.2 := by
  induction hr with
  | start => exact nomatch h
  | @next w w' past hr hs ih =>
    have hold : w.isRaised (some f) = true → ∃ m ∈ moves w' (w :: past), Raises f m.1 m.2 := by
      intro hraised
      obtain ⟨m, hm, hraises⟩ := ih hraised
      exact ⟨m, List.mem_cons_of_mem _ hm, hraises⟩
    rcases hs.signals hr.reachable with hsame | hsignal
    · exact hold (isRaised_congr hsame.flags _ ▸ h)
    cases hsignal with
    | make n hi hf => exact hold (isRaised_make hf _ ▸ h)
    | clone x hx hi hf => exact hold (isRaised_congr hf _ ▸ h)
    | raise i x hx ha heq =>
      by_cases hxf : x.flag = f
      · exact ⟨_, List.mem_cons_self .., i, x, hx, hxf, ha⟩
      · subst heq
        have hne : some f ≠ some x.flag := fun heq => hxf (Option.some.inj heq).symm
        exact hold (isRaised_setFlag_ne w true hne ▸ h)
    | lower i x hx heq =>
      subst heq
      by_cases hxf : x.flag = f
      · subst hxf
        have hlt := hr.reachable.flagged.lt x (List.mem_of_getElem? hx)
        exact nomatch h.symm.trans (isRaised_setFlag_self false hlt)
      · have hne : some f ≠ some x.flag := fun heq => hxf (Option.some.inj heq).symm
        exact hold (isRaised_setFlag_ne w false hne ▸ h)

/-- An acquire that is blocked while its flag is raised was woken, and is about to run. -/
theorem Reachable.heeded (hw : Reachable w) {v : Waiter} (hv : v ∈ w.waiters)
    (hasleep : v.woken = false) : w.isRaised v.flag = false := by
  induction hw generalizing v with
  | refl => exact absurd hv List.not_mem_nil
  | @tail w w' hw hs ih =>
    replace hw : Reachable w := hw
    rcases hs.signals hw with hsame | hsignal
    · rw [isRaised_congr hsame.flags]
      exact (hsame.asleep v hv hasleep).elim (fun hv => ih hv hasleep) id
    cases hsignal with
    | make n hi hf heq =>
      rw [isRaised_make hf]
      exact ih (heq ▸ hv) hasleep
    | clone x hx hi hf heq =>
      rw [isRaised_congr hf]
      exact ih (heq ▸ hv) hasleep
    | raise i x hx ha heq =>
      subst heq
      have hold : v ∈ w.waiters :=
        ((Beside.refl (w.setFlag x true)).wakeAll x.site).waiting v hv hasleep
      -- One that waits with this flag waits for the pool of the handle, where all were woken.
      have hne : v.flag ≠ some x.flag := fun hflag =>
        site_ne_of_wakeAll hv hasleep
          (hw.flagged.site _ (hw.flagged.blocked v hold _ hflag) x (List.mem_of_getElem? hx) rfl)
      exact (isRaised_setFlag_ne w true hne).trans (ih hold hasleep)
    | lower i x hx heq =>
      subst heq
      by_cases hflag : v.flag = some x.flag
      · rw [hflag]
        exact isRaised_setFlag_self false (hw.flagged.lt x (List.mem_of_getElem? hx))
      · exact (isRaised_setFlag_ne w false hflag).trans (ih hv hasleep)

end ConnPool.World
