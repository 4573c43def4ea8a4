import ConnPool.Proofs.Pool.Prepared
import ConnPool.Proofs.World.Custody
import ConnPool.Proofs.World.Deals

/-!
# Reconfiguration draws a line

After a change of its configuration a pool is not to hand out connections of the old one. Acquires
may be blocked while the configuration changes, and handles of the old one come back later. What
keeps the old connections away is that the change empties the lists of the pool, and that a
connection gets into the lists only by being opened (`Custody.only`).

A connection that is opened is asked for with the url, the properties and the defaults of the target
in force, and with the login of the demand (`Run.opens`). It is set to the defaults before anybody
gets it (`Reachable.prepared`).

**Theorem (`reconfiguration_draws_line`).** All three hold of every critical section of every run.
-/

namespace ConnPool

/-! ## What is to be asked for -/

/-- Username and password are those that the demand brings along, or else those of the target. -/
def Demand.SignsIn (d : Demand) (target : Target) (username password : Option String) : Prop :=
  match d with
  | .loggedIn name secret => username = some name ∧ password = some secret
  | .ordinary | .interruptible _ => username = target.username ∧ password = target.password

/-- While the target is in force, what is asked for to meet the demand has the url, the properties
and the defaults of the target. -/
structure Demand.AsksFor (d : Demand) (target asked : Target) : Prop where
  url : asked.url = target.url
  login : d.SignsIn target asked.username asked.password
  driverProperties : asked.driverProperties = target.driverProperties
  autoCommit : asked.autoCommit = target.autoCommit
  isolation : asked.isolation = target.isolation
  networkTimeout : asked.networkTimeout = target.networkTimeout

theorem Demand.signsIn_withLogin (d : Demand) (target : Target) :
    d.SignsIn target (target.withLogin d.login).username (target.withLogin d.login).password := by
  cases d <;> exact ⟨rfl, rfl⟩

theorem Demand.asksFor_withLogin (d : Demand) (target : Target) :
    d.AsksFor target (target.withLogin d.login) where
  url := target.url_withLogin d.login
  login := d.signsIn_withLogin target
  driverProperties := by cases d <;> rfl
  autoCommit := by cases d <;> rfl
  isolation := by cases d <;> rfl
  networkTimeout := by cases d <;> rfl

namespace World

open Pool

variable {S : Type} [Bench S] {w w' w₀ w₁ : World S} {n conn : Nat} {past : List (World S)}

/-! ## The line -/

/-- A change of pool `n` is carried out, or its connections are closed by force. -/
inductive Redraws (n : Nat) (w w' : World S) : Prop
  | change (c : Change) (h : w.act (.change n c) = some (.done, w'))
  | forceClose (h : w.act (.forceClose n) = some (.done, w'))

theorem Redraws.section (h : Redraws n w w') : Section w w' := by
  cases h with
  | change c h => exact .step (.act (.change n c)) rfl h
  | forceClose h => exact .step (.act (.forceClose n)) rfl h

/-- What gives up every connection leaves nothing in the lists. -/
theorem live_of_yield {e e' : Env} {p p' : Pool} (hy : Yield n .all e p e' p') :
    p'.live none = [] := by
  cases hy with
  | drain | change | shutDown => simp [live]

omit [Bench S] in
theorem listed_of_yield {site : Site S} {s : Scene S} (hn : w.sites[n]? = some site)
    (hy : Yield n .all w.env site.pool s.env s.pool) :
    ((w.after n site s).wakeAll n).listed n = [] := by
  have hp : ((w.after n site s).wakeAll n).pools[n]? = some s.pool :=
    pools_set_self (pools_getElem? hn) (pools_after w n site s)
  rw [listed_eq hp, conns, live_of_yield hy]
  rfl

theorem Redraws.listed (h : Redraws n w w') : w'.listed n = [] := by
  cases h with
  | change c h =>
    obtain ⟨site, hn, ⟨-, rfl, -, hy⟩ | ⟨⟨e, hrefused⟩, -⟩⟩ := act_change h
    · exact listed_of_yield hn hy
    · exact nomatch hrefused
  | forceClose h =>
    obtain ⟨site, hn, -, rfl⟩ := act_forceClose h
    exact listed_of_yield hn (drain_yields (w.scene n site)).2

/-- Behind the line there are only connections that were opened there. -/
theorem notOpened_of_listed (hw : Reachable w₁) (hempty : w₁.listed n = []) (hs : Sections w₁ w)
    (h : conn ∈ w.listed n) : ¬w₁.env.Opened n conn := by
  have hgrows : ∀ {w : World S}, Sections w₁ w → w₁.env.Grows w.env := by
    intro w hs
    induction hs with
    | refl => exact .refl _
    | tail _ st ih => exact ih.trans st.shift.grows
  induction hs with
  | refl =>
    rw [hempty] at h
    exact absurd h List.not_mem_nil
  | @tail w w' hs st ih =>
    have hreach : Reachable w := hw.trans hs
    have hover : ¬HandsOver n conn w w' := fun hover => (hover.leaves hreach).2.1 h
    rcases (st.custody hreach hover).only h with hin | ⟨-, hnew⟩
    · exact ih hin
    · exact fun hold => hnew (hold.grows (hgrows hs))

/-- A handle that comes into the hands of a caller is checked out. -/
theorem HandsOut.active {t : Nat} {r : Ref} (h : HandsOut n t r w w') (hw : Reachable w)
    (hs : Section w w') : ∃ p, w'.pools[n]? = some p ∧ r ∈ p.active := by
  have hany : Upkeep (S := S) fun _ _ => True :=
    ⟨fun _ => trivial, fun _ _ => trivial, fun _ => trivial, fun _ => trivial,
      fun _ _ _ => trivial, fun _ _ _ _ => trivial, fun _ _ => trivial⟩
  obtain ⟨site, hn⟩ := h.exists_site hw hs
  obtain ⟨site', hn', a, s, -, -, heq⟩ := hs.handsOut hany hw hn h
  have hpool : site'.pool = (isFit r s).2.pool.handedOut a r (isFit r s).2.env.now :=
    congrArg Scene.pool heq
  refine ⟨site'.pool, pools_getElem? hn', ?_⟩
  rw [hpool]
  exact List.mem_append_right _ (List.mem_singleton_self r)

/-! ## What is asked for -/

/-- The acquire of the ticket was started with the demand in one of the critical sections of a
run. -/
def Asked (n t : Nat) (d : Demand) (w : World S) (past : List (World S)) : Prop :=
  ∃ m ∈ moves w past, m.1.demand n d = some m.2 ∧ m.1.tickets.length = t

/-- A blocked acquire has the login of the demand that it was started with. -/
theorem Run.asked (hr : Run w past) {v : Waiter} (hv : v ∈ w.waiters) :
    ∃ d, Asked v.site v.ticket d w past ∧ d.login = v.acquire.login := by
  induction hr generalizing v with
  | start => exact absurd hv List.not_mem_nil
  | @next w w' past hr hs ih =>
    have hold : ∀ {u : Waiter}, u ∈ w.waiters → u.asleep = v.asleep →
        ∃ d, Asked v.site v.ticket d w' (w :: past) ∧ d.login = v.acquire.login := by
      intro u hu heq
      obtain ⟨ht, hsite, -, ha, -⟩ := Waiter.of_asleep_eq heq
      obtain ⟨d, ⟨m, hm, hd⟩, hlogin⟩ := ih hu
      rw [← ht, ← hsite, ← ha]
      exact ⟨d, ⟨m, List.mem_cons_of_mem _ hm, hd⟩, hlogin⟩
    have hqueued := hr.reachable.queued
    -- Where no acquire has a turn, the same ones are blocked.
    have hcalm : Calm w w' →
        ∃ d, Asked v.site v.ticket d w' (w :: past) ∧ d.login = v.acquire.login := by
      intro hc
      obtain ⟨u, hu, heq⟩ := hc.comes hv
      exact hold hu heq
    cases hs with
    | step s hs h => exact hcalm (takeOne_calm hs h)
    | pass t => exact hcalm (.of_same rfl rfl (Nat.le_refl _))
    | @resume u hu =>
      obtain ⟨turn, s, heq, hseeks⟩ :=
        resume_turns (List.getElem?_eq_getElem (hqueued.site u hu))
      rw [heq] at hv
      rcases mem_endTurn hv with hv | ⟨ht, hsite, -, -, -, wait, rfl, -⟩
      · exact hold (mem_without.1 hv).1 rfl
      · obtain ⟨d, ⟨m, hm, hd⟩, hlogin⟩ := ih hu
        rw [ht, hsite]
        exact ⟨d, ⟨m, List.mem_cons_of_mem _ hm, hd⟩, hlogin.trans hseeks.aims.login.symm⟩
    | start n d hn h =>
      rcases demand_cases h with ⟨flag, rfl⟩ | ⟨cause, rfl⟩
      · obtain ⟨site, hsite⟩ := Option.isSome_iff_exists.1 hn
        obtain ⟨turn, s, heq, hseeks⟩ :=
          start_turns (Option.filter_eq_some_iff.1 hsite).1 d.login flag
        rw [heq] at hv
        rcases mem_endTurn hv with hv | ⟨ht, hsite, -, -, -, wait, rfl, -⟩
        · exact hold hv rfl
        · rw [ht, hsite]
          exact ⟨d, ⟨_, List.mem_cons_self .., h, rfl⟩, hseeks.aims.login.symm⟩
      · exact hold hv rfl

/-- The call asks for a connection to what meets the demand of an acquire of pool `n`, which has its
first turn or a later one, while the target of the pool is in force. -/
def Aims (n : Nat) (c : Call) (w : World S) (past : List (World S)) (w' : World S) : Prop :=
  ∃ p d asked outcome, w.pools[n]? = some p ∧
    c.deed = .connect asked outcome ∧ d.AsksFor p.target asked ∧
    (w.demand n d = some w' ∨
      ∃ v ∈ w.waiters, v.site = n ∧ w' = w.resume v ∧ Asked n v.ticket d w past)

omit [Bench S] in
/-- A new call that asks for a connection is among the new calls of this kind. -/
theorem mem_of_connects {new connects : List Call} {c : Call}
    (hnew : w'.env.calls = new ++ w.env.calls) (hc : c ∈ new) (hconnect : c.deed.isConnect = true)
    (h : w'.env.connects = connects ++ w.env.connects) : c ∈ connects := by
  rw [Env.connects, hnew, List.filter_append] at h
  rw [← List.append_cancel_right h]
  exact List.mem_filter.2 ⟨hc, hconnect⟩

omit [Bench S] in
theorem connectsOf_ne_of_mem {new : List Call} {c : Call} (hnew : w'.env.calls = new ++ w.env.calls)
    (hc : c ∈ new) (hsite : c.site = n) (hconnect : c.deed.isConnect = true) :
    w'.env.connectsOf n ≠ w.env.connectsOf n := by
  intro heq
  have hsplit : w'.env.connectsOf n =
      (new.filter (·.deed.isConnect)).filter (·.site == n) ++ w.env.connectsOf n := by
    rw [Env.connectsOf, Env.connects, hnew, List.filter_append, List.filter_append]
    rfl
  have hnil := List.self_eq_append_left.1 (heq.symm.trans hsplit)
  refine List.not_mem_nil (hnil ▸ ?_ : c ∈ [])
  exact List.mem_filter.2 ⟨List.mem_filter.2 ⟨hc, hconnect⟩, by simpa using hsite⟩

/-- For a pool that is not made yet nobody asks for a connection. -/
theorem Section.connectsOf_of_none (hs : Section w w') (hn : w.sites[n]? = none) :
    w'.env.connectsOf n = w.env.connectsOf n := by
  cases hs.shift with
  | aside hb | create _ _ _ hb | yield hb => exact Env.connectsOf_congr hb.connects
  | turn _ hm _ _ hseeks =>
    refine hseeks.connectsOf_ne fun heq => ?_
    subst heq
    cases (pools_eq_none_iff.2 hn).symm.trans hm

/-- A connection is asked for in the turn of an acquire, and with the target in force. -/
theorem Run.opens (hr : Run w past) (hs : Section w w') {new : List Call}
    (hnew : w'.env.calls = new ++ w.env.calls) {c : Call} (hc : c ∈ new) (hsite : c.site = n)
    (hconnect : c.deed.isConnect = true) : Aims n c w past w' := by
  have hno := connectsOf_ne_of_mem hnew hc hsite hconnect
  -- So the section is a turn of an acquire of this pool.
  have haside : ¬Aside n w w' := fun h => hno h.connects
  cases hn : w.sites[n]? with
  | none => exact absurd (hs.connectsOf_of_none hn) hno
  | some site =>
    obtain ⟨site', -, hd | ⟨h, -⟩⟩ := hs.meets hr.reachable hn
    · generalize w'.scene n site' = s' at hd
      cases hd with
      | aside h | order _ h | release _ _ _ h | detach _ _ _ _ h | change _ h | forceClose h
      | shutDown h => exact absurd h haside
      | begin d flag hd hw' =>
        obtain ⟨turn, s, heq, hseeks⟩ := start_turns hn d.login flag
        have henv : w'.env = s.env := by
          rw [hw', heq]
          cases turn <;> rfl
        obtain ⟨connects, hconnects, hall⟩ := hseeks.aims.connects
        obtain ⟨-, outcome, hdeed⟩ := hall c (mem_of_connects hnew hc hconnect (henv ▸ hconnects))
        exact ⟨site.pool, d, _, outcome, pools_getElem? hn, hdeed, d.asksFor_withLogin _, .inl hd⟩
      | resume v hv hvn hw' =>
        subst hvn
        obtain ⟨turn, s, heq, hseeks⟩ := resume_turns hn
        have henv : w'.env = s.env := by
          rw [hw', heq]
          cases turn <;> rfl
        obtain ⟨connects, hconnects, hall⟩ := hseeks.aims.connects
        obtain ⟨-, outcome, hdeed⟩ := hall c (mem_of_connects hnew hc hconnect (henv ▸ hconnects))
        obtain ⟨d, hasked, hlogin⟩ := hr.asked hv
        have hdeed' : c.deed = .connect (site.pool.target.withLogin d.login) outcome := by
          rw [hlogin]
          exact hdeed
        exact ⟨site.pool, d, _, outcome, pools_getElem? hn, hdeed', d.asksFor_withLogin _,
          .inr ⟨v, hv, rfl, hw', hasked⟩⟩
    · exact absurd h haside

/-! ## What connections are set to -/

/-- A connection around which a pool has a handle was prepared. -/
theorem Reachable.prepared (hw : Reachable w) {site : Site S} (hn : w.sites[n]? = some site) :
    ∀ h ∈ site.pool.handles, h.raw = default ∨ w.env.Prepared S n h.raw := by
  induction hw generalizing site with
  | refl => exact nomatch hn
  | @tail w w' hw hs ih =>
    cases hold : w.sites[n]? with
    | none =>
      obtain ⟨-, settings, target, -, heq⟩ :=
        hs.created (pools_eq_none_iff.2 hold) (pools_getElem? hn)
      rw [heq]
      exact fun h hmem => absurd hmem List.not_mem_nil
    | some site₀ =>
      obtain ⟨site', hn', hmeets⟩ := hs.meets hw hold
      cases Option.some.inj (hn.symm.trans hn')
      have hprep : (w.scene n site₀).Preparing (w'.scene n site) := by
        rcases hmeets with hd | ⟨-, hu⟩
        · exact hd.keeps upkeep_preparing fun _ _ _ _ _ => .same rfl (.refl _) rfl
        · generalize w'.scene n site = s' at hu
          cases hu with
          | ask conn question => exact upkeep_preparing.ask conn question _
          | tell conn command =>
            have h := Scene.Chats.talk (Talk.concerns_tell conn command) (w.scene n site₀)
            exact .same h.site h.grows (congrArg Pool.handles h.pool)
      intro h hmem
      rcases hprep.raw h hmem with hdefault | ⟨h₀, hmem₀, heq⟩ | hprepared
      · exact .inl hdefault
      · rw [← heq]
        exact (ih hold h₀ hmem₀).imp_right fun hp => hp.grows hprep.env
      · exact .inr hprepared

/-- The names of connections are counted from one. -/
theorem Reachable.opened_pos (hw : Reachable w) (h : w.env.Opened n conn) : 0 < conn := by
  obtain ⟨target, hc⟩ := Env.opened_iff.1 h
  have hmem : conn ∈ (w.env.connectsOf n).map (·.conn) := List.mem_map.2 ⟨_, hc, rfl⟩
  rw [hw.numbered n, List.mem_reverse, List.mem_range'_1] at hmem
  exact hmem.1

/-- So was one that comes into the hands of a caller. -/
theorem HandsOut.prepared {t : Nat} {r : Ref} (h : HandsOut n t r w w') (hw : Reachable w)
    (hs : Section w w') :
    ∃ p, w'.pools[n]? = some p ∧ w'.env.Prepared S n (p.handle r).raw := by
  have hw' : Reachable w' := hw.tail hs
  obtain ⟨p, hn, hr⟩ := h.active hw hs
  obtain ⟨site, hsite, rfl⟩ := exists_site_of_pools hn
  have hlt := (hw'.owners.owned n _ hn).lt (mem_live_of_active hr)
  have hmem : site.pool.handle r ∈ site.pool.handles := by
    rw [handle_eq_getElem hlt]
    exact List.getElem_mem hlt
  refine ⟨site.pool, hn, (hw'.prepared hsite _ hmem).resolve_left fun hdefault => ?_⟩
  have hopened : w'.env.Opened n (site.pool.connOf r) :=
    ⟨_, (hw'.pool isolated_invariant hn).opened r (mem_live_of_active hr)⟩
  have hpos := hw'.opened_pos hopened
  rw [connOf, hdefault] at hpos
  exact Nat.lt_irrefl 0 hpos

/-! ## Reconfiguration -/

deriving instance DecidableEq for Answer, Deed

/-- What reconfiguration means for the connections of pool `n`, in the critical section at the end
of a run. -/
structure Current (n : Nat) (w : World S) (past : List (World S)) (w' : World S) : Prop where
  /-- A connection that comes into the hands of a caller was opened after every earlier change. -/
  fresh : ∀ w₀ w₁, Reachable w₀ → Redraws n w₀ w₁ → Sections w₁ w → ∀ t r, HandsOut n t r w w' →
    ∃ p, w'.pools[n]? = some p ∧ w'.env.Opened n (p.connOf r) ∧ ¬w₁.env.Opened n (p.connOf r)
  /-- A connection is asked for with the url, the properties and the defaults of the target in force,
  and with the login of the demand that it is for. -/
  aims : ∀ new, w'.env.calls = new ++ w.env.calls → ∀ c ∈ new, c.site = n →
    c.deed.isConnect = true → Aims n c w past w'
  /-- A connection that comes into the hands of a caller was set to the defaults of the target that
  it was opened for, right after it was opened. -/
  prepared : ∀ t r, HandsOut n t r w w' →
    ∃ p, w'.pools[n]? = some p ∧ w'.env.Prepared S n (p.handle r).raw

/-- Reconfiguration draws a line: what is handed out behind it was opened behind it, for the target
in force, and was set to the defaults of that target. -/
theorem reconfiguration_draws_line (hr : Run w past) (hs : Section w w') (n : Nat) :
    Current n w past w' where
  fresh w₀ w₁ hw₀ hline hrun t r hout := by
    have hw := hr.reachable
    have hw' : Reachable w' := hw.tail hs
    have hw₁ : Reachable w₁ := hw₀.tail hline.section
    obtain ⟨p, hn, hactive⟩ := hout.active hw hs
    have hlisted : p.connOf r ∈ w'.listed n := by
      rw [listed_eq hn]
      exact List.mem_map_of_mem (mem_live_of_active hactive)
    exact ⟨p, hn, hw'.opened_of_listed hlisted,
      notOpened_of_listed hw₁ hline.listed (hrun.tail hs) hlisted⟩
  aims new hnew c hc hsite hconnect := hr.opens hs hnew hc hsite hconnect
  prepared t r hout := hout.prepared hr.reachable hs

/-- An acquire with a login of its own is blocked while the url changes. When it runs it gets a
connection that was opened after that, with this login, and with the properties and the defaults of
the target. -/
theorem reconfiguration_draws_line_blocked :
    let target : Target := {
      url := "old", username := some "app", password := some "secret"
      driverProperties := .ofList [("ssl", "on")], autoCommit := some false }
    let w₀ : World Scripted := runAll {} [
      .create {} { settings := { maxActive := 1 }, target },
      .acquire 0 .ordinary false, .acquire 0 (.loggedIn "reporting" "pw") false]
    ∃ w₁, Redraws 0 w₀ w₁ ∧ ∃ v ∈ w₁.waiters, HandsOut 0 1 1 w₁ (w₁.resume v) ∧
      ((w₁.resume v).env.calls.filter (·.conn == 2)).map (·.deed) = [
        .tell .rollback (.ok ()), .ask .autoCommit (.ok false), .ask .isClosed (.ok false),
        .tell (.setAutoCommit false) (.ok ()),
        .connect {
          url := "new", username := some "reporting", password := some "pw"
          driverProperties := .ofList [("ssl", "on")], autoCommit := some false } (.ok ())] ∧
      ∃ past, Run w₁ past ∧ Current 0 w₁ past (w₁.resume v) := by
  intro target w₀
  -- The change is carried out, and what comes next is looked up in the world after it.
  have hfacts : ∃ x ∈ w₀.act (.change 0 (.url "new")), x.1 = .done ∧
      ∃ v ∈ x.2.waiters, HandsOut 0 1 1 x.2 (x.2.resume v) ∧
        ((x.2.resume v).env.calls.filter (·.conn == 2)).map (·.deed) = [
          .tell .rollback (.ok ()), .ask .autoCommit (.ok false), .ask .isClosed (.ok false),
          .tell (.setAutoCommit false) (.ok ()),
          .connect {
            url := "new", username := some "reporting", password := some "pw"
            driverProperties := .ofList [("ssl", "on")], autoCommit := some false } (.ok ())] := by
    decide +kernel
  obtain ⟨⟨answer, w₁⟩, hact, rfl, v, hv, hout, hcalls⟩ := hfacts
  have hline : Redraws 0 w₀ w₁ := .change _ hact
  have hw₀ : Reachable w₀ := Reachable.runAll .refl _
  have hw₁ : Reachable w₁ := hw₀.tail hline.section
  obtain ⟨past, hr⟩ := hw₁.exists_run
  exact ⟨w₁, hline, v, hv, hout, hcalls, past, hr,
    reconfiguration_draws_line hr (.resume hv) 0⟩

end World

end ConnPool
