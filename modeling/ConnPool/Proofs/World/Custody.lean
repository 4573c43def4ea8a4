import ConnPool.Proofs.Pool.Custody
import ConnPool.Proofs.World.Logins

/-!
# No connection gets lost

Every connection that the backend opened for a pool has to be accounted for: a database session that
nobody knows of is never closed. In each critical section a connection is entrusted to the pool or
not, and if it is, then afterwards it is in the lists of the pool, or a caller keeps it
(`HandsOver`), or the pool has seen it off (`Dismisses`).

**Theorem (`no_connection_lost`).** Over a whole run, one of these is true exactly once.
-/

namespace ConnPool.World

open Pool

variable {S : Type}

/-- The connections in the lists of pool `n`. -/
def listed (w : World S) (n : Nat) : List Nat :=
  (w.pools[n]?.map fun p => (p.active ++ p.idle).map p.connOf).getD []

/-- How many connections pool `n` has asked for. -/
def attemptsOf (w : World S) (n : Nat) : Nat := (w.pools[n]?.map (·.attempts)).getD 0

/-- Pool `n` gives a connection up that was entrusted to it, and by then the connection was told to
close, or said that it is closed. -/
def Dismisses (n conn : Nat) (w w' : World S) : Prop :=
  Entrusted n conn w.env (w.listed n) w'.env ∧ conn ∉ w'.listed n ∧ w.env.SeenOff n conn w'.env

variable {w w' : World S} {n conn : Nat}

theorem listed_eq {p : Pool} (hn : w.pools[n]? = some p) : w.listed n = p.conns none := by
  rw [listed, hn]
  rfl

theorem attemptsOf_eq {p : Pool} (hn : w.pools[n]? = some p) : w.attemptsOf n = p.attempts := by
  rw [attemptsOf, hn]
  rfl

theorem listed_congr (h : w'.pools[n]? = w.pools[n]?) : w'.listed n = w.listed n := by
  rw [listed, h]
  rfl

theorem attemptsOf_congr (h : w'.pools[n]? = w.pools[n]?) : w'.attemptsOf n = w.attemptsOf n := by
  rw [attemptsOf, h]
  rfl

/-- A pool that is made has nothing in it. -/
theorem of_append {settings : Settings} {target : Target}
    (hp : w'.pools = w.pools ++ [.empty settings target]) (n : Nat) :
    w'.listed n = w.listed n ∧ w'.attemptsOf n = w.attemptsOf n := by
  rcases Nat.lt_trichotomy n w.pools.length with hlt | rfl | hgt
  · have h : w'.pools[n]? = w.pools[n]? := by rw [hp, List.getElem?_append_left hlt]
    exact ⟨listed_congr h, attemptsOf_congr h⟩
  · have hnew : w'.pools[w.pools.length]? = some (.empty settings target) := by simp [hp]
    have hold : w.pools[w.pools.length]? = none := List.getElem?_eq_none (Nat.le_refl _)
    rw [listed_eq hnew, attemptsOf_eq hnew, listed, attemptsOf, hold]
    exact ⟨rfl, rfl⟩
  · have h : w'.pools[n]? = w.pools[n]? := by
      rw [List.getElem?_eq_none (Nat.le_of_lt hgt), hp, List.getElem?_eq_none]
      rw [List.length_append]
      exact hgt
    exact ⟨listed_congr h, attemptsOf_congr h⟩

variable [Bench S]

/-! ## Names -/

/-- In a reachable world the connections of every pool are numbered. -/
theorem Reachable.numbered (hw : Reachable w) (n : Nat) : Numbered n w.env (w.attemptsOf n) := by
  induction hw with
  | refl => rfl
  | @tail w w' hw hs ih =>
    cases hs.shift with
    | aside hb hp =>
      rw [attemptsOf_congr (congrArg (·[n]?) hp)]
      exact ih.congr (Env.connectsOf_congr hb.connects)
    | create settings target _ hb hp =>
      rw [(of_append hp n).2]
      exact ih.congr (Env.connectsOf_congr hb.connects)
    | @turn m raised p p' phase turn ticket hn hp hphase hseeks =>
      by_cases hmn : m = n
      · subst hmn
        rw [attemptsOf_eq hn] at ih
        rw [attemptsOf_eq (pools_set_self hn hp)]
        exact hseeks.numbered ih
      · rw [attemptsOf_congr (pools_set_ne hp (Ne.symm hmn))]
        exact ih.congr (hseeks.connectsOf_ne hmn)
    | @yield m who p p' hb hn hp hgave hy =>
      refine Numbered.congr ?_ (Env.connectsOf_congr hb.connects)
      by_cases hmn : m = n
      · subst hmn
        rw [attemptsOf_eq (pools_set_self hn hp), hy.attempts, ← attemptsOf_eq hn]
        exact ih
      · rw [attemptsOf_congr (pools_set_ne hp (Ne.symm hmn))]
        exact ih

/-! ## One critical section -/

theorem Reachable.nodup_listed (hw : Reachable w) (n : Nat) : (w.listed n).Nodup := by
  cases hn : w.pools[n]? with
  | none =>
    rw [listed, hn]
    exact .nil
  | some p =>
    have ho := hw.owners.owned n p hn
    rw [listed_eq hn]
    exact ho.nodup.map_on ho.inj

theorem Reachable.opened_of_listed (hw : Reachable w) (h : conn ∈ w.listed n) :
    w.env.Opened n conn := by
  cases hn : w.pools[n]? with
  | none =>
    rw [listed, hn] at h
    exact absurd h List.not_mem_nil
  | some p =>
    rw [listed_eq hn] at h
    obtain ⟨r, hr, rfl⟩ := List.mem_map.1 h
    exact ⟨_, (hw.pool isolated_invariant hn).opened r hr⟩

/-- A connection that is handed over leaves the lists without being called. -/
theorem HandsOver.leaves (hw : Reachable w) (h : HandsOver n conn w w') :
    conn ∈ w.listed n ∧ conn ∉ w'.listed n ∧ w'.env.calls = w.env.calls := by
  obtain ⟨ticket, r, handle, slot, hheld, rfl, hact⟩ := h
  obtain ⟨n', r', site, w₁, hheld', hn, rfl, ⟨howned, heq⟩ | ⟨-, heq⟩⟩ := act_detach hact
  · cases hheld.symm.trans hheld'
    have hgiven := (held?_eq_some hheld).1
    have ho := hw.owners.owned n site.pool (pools_getElem? hn)
    have hidle := (hw.owners.lt_and_notMem_idle (pools_getElem? hn) hgiven).2
    have hr : r ∈ site.pool.active ∧ (site.pool.handle r).valid = true := by
      rw [detach_owned] at howned
      simpa [scene] using howned
    obtain ⟨henv, hpool⟩ := (detach_yields r (w.scene n site)).2.detached hr.1 hr.2
    have hlisted : (w.after n site (detach r (w.scene n site)).2).listed n =
        (site.pool.checkedIn r).conns none := by
      rw [listed_eq (pools_set_self (pools_getElem? hn) (pools_after ..)), hpool]
      exact conns_detached site.pool r
    have hbefore : (w.listed n).Perm
        (site.pool.connOf r :: (site.pool.checkedIn r).conns none) := by
      rw [listed_eq (pools_getElem? hn)]
      exact conns_checkedIn ho hr.2 hidle
    have hcalls : (detach r (w.scene n site)).2.env.calls = w.env.calls := by
      rw [henv]
      rfl
    cases heq
    refine ⟨hbefore.mem_iff.2 (List.mem_cons_self ..), ?_, hcalls⟩
    change _ ∉ (w.after n site (detach r (w.scene n site)).2).listed n
    rw [hlisted]
    exact (List.nodup_cons.1 (hbefore.nodup_iff.1 (hw.nodup_listed n))).1
  · cases heq

/-- No connection gets lost in a critical section, but a caller may keep one. -/
theorem Section.custody (hw : Reachable w) (hs : Section w w') (hkeep : ¬HandsOver n conn w w') :
    Custody n conn w.env (w.listed n) w'.env (w'.listed n) := by
  have howners := hw.owners
  cases hs.shift with
  | aside hb hp =>
    rw [listed_congr (congrArg (·[n]?) hp)]
    exact .same hb.env (Env.connectsOf_congr hb.connects) .rfl
  | create settings target _ hb hp =>
    rw [(of_append hp n).1]
    exact .same hb.env (Env.connectsOf_congr hb.connects) .rfl
  | @turn m raised p p' phase turn ticket hn hp hphase hseeks =>
    by_cases hmn : m = n
    · subst hmn
      have ho : Owned w.env p (p.live phase.hand) := hphase.hand ▸ howners.owned m p hn
      have hnum : Numbered m w.env p.attempts := attemptsOf_eq hn ▸ hw.numbered m
      have hc : Custody m conn w.env (p.conns phase.hand) w'.env (p'.conns none) :=
        (Custody.seeks hseeks ho hnum).1
      rw [listed_eq hn, listed_eq (pools_set_self hn hp)]
      rwa [hphase.hand] at hc
    · rw [listed_congr (pools_set_ne hp (Ne.symm hmn))]
      exact .same hseeks.grows (hseeks.connectsOf_ne hmn) .rfl
  | @yield m who p p' hb hn hp hgave hy hv hd =>
    by_cases hmn : m = n
    · subst hmn
      have hidle : ∀ r ∈ who.ref?, r ∉ p.idle := fun r hr =>
        (hgave r hr).elim fun t ht => (howners.lt_and_notMem_idle hn ht).2
      rw [listed_eq hn, listed_eq (pools_set_self hn hp)]
      refine .yield hy (howners.owned m p hn) hidle fun r hwho ha hv heq => ?_
      exact hkeep (heq ▸ hd r hwho ha hv)
    · rw [listed_congr (pools_set_ne hp (Ne.symm hmn))]
      exact .same hb.env (Env.connectsOf_congr hb.connects) .rfl

open scoped Classical in
/-- What is true of a connection that is entrusted to a pool adds up to one. -/
theorem Entrusted.count (hw : Reachable w) (hgrows : w.env.Grows w'.env)
    (h : Entrusted n conn w.env (w.listed n) w'.env) :
    ((w.listed n).count conn + if w'.env.Opened n conn then 1 else 0) =
      1 + if w.env.Opened n conn then 1 else 0 := by
  rcases h with hin | ⟨hopened, hnew⟩
  · have hold := hw.opened_of_listed hin
    rw [List.count_eq_one_of_mem (hw.nodup_listed n) hin, if_pos hold, if_pos (hold.grows hgrows)]
  · have hnot : conn ∉ w.listed n := fun hin => hnew (hw.opened_of_listed hin)
    rw [List.count_eq_zero_of_not_mem hnot, if_pos hopened, if_neg hnew]

open scoped Classical in
/-- What comes into the books of a pool in a critical section is what goes out or stays. -/
theorem Section.balance (hw : Reachable w) (hs : Section w w') (n conn : Nat) :
    ((w'.listed n).count conn + (if HandsOver n conn w w' then 1 else 0) +
        if Dismisses n conn w w' then 1 else 0) + (if w.env.Opened n conn then 1 else 0) =
      (w.listed n).count conn + if w'.env.Opened n conn then 1 else 0 := by
  have hw' : Reachable w' := hw.tail hs
  by_cases hover : HandsOver n conn w w'
  · -- The connection was in the lists, and without a call it cannot have been seen off as well.
    obtain ⟨hin, hout, hcalls⟩ := hover.leaves hw
    have hold := hw.opened_of_listed hin
    have hopened : w'.env.Opened n conn := hold.imp fun _ hc => hcalls ▸ hc
    have hnot : ¬Dismisses n conn w w' := fun hd => hd.2.2.calls_ne hcalls
    rw [List.count_eq_zero_of_not_mem hout, List.count_eq_one_of_mem (hw.nodup_listed n) hin,
      if_pos hover, if_neg hnot, if_pos hold, if_pos hopened]
  · have hc := hs.custody hw hover
    rw [if_neg hover]
    by_cases htrust : Entrusted n conn w.env (w.listed n) w'.env
    · rw [Entrusted.count hw hc.grows htrust]
      by_cases hin : conn ∈ w'.listed n
      · rw [List.count_eq_one_of_mem (hw'.nodup_listed n) hin, if_neg fun hd => hd.2.1 hin]
      · have hdismissed : Dismisses n conn w w' := ⟨htrust, hin, (hc.kept htrust).resolve_left hin⟩
        rw [List.count_eq_zero_of_not_mem hin, if_pos hdismissed]
    · have hout : conn ∉ w'.listed n := fun hin => htrust (hc.only hin)
      have hsame : w'.env.Opened n conn ↔ w.env.Opened n conn :=
        ⟨fun h => by_contra fun hnew => htrust (.inr ⟨h, hnew⟩), fun h => h.grows hc.grows⟩
      rw [List.count_eq_zero_of_not_mem hout, if_neg fun hd => htrust hd.1,
        List.count_eq_zero_of_not_mem fun hin => htrust (.inl hin)]
      simp only [hsame]

/-! ## Whole runs -/

open scoped Classical in
/-- The books of a pool balance after every run. -/
theorem Run.balance {past : List (World S)} (hr : Run w past) (n conn : Nat) :
    (w.listed n).count conn + times (HandsOver n conn) w past + times (Dismisses n conn) w past =
      if w.env.Opened n conn then 1 else 0 := by
  induction hr with
  | start =>
    have hnone : ¬({} : World S).env.Opened n conn := fun ⟨_, hc⟩ => absurd hc List.not_mem_nil
    rw [if_neg hnone]
    rfl
  | @next w w' past hr hs ih =>
    -- What was opened in earlier sections is on both sides of the balance of this one.
    have hsection := hs.balance hr.reachable n conn
    rw [times_next, times_next]
    omega

/-- Each connection that the backend ever opened for a pool is in its lists once, or was handed over
to a caller who detached it, or was dismissed: one of these, and that once in the whole run. -/
theorem no_connection_lost {past : List (World S)} (hr : Run w past)
    (hopened : w.env.Opened n conn) :
    (w.listed n).count conn + times (HandsOver n conn) w past + times (Dismisses n conn) w past =
      1 := by
  rw [hr.balance, if_pos hopened]

/-- One of each kind: a connection that cannot be set to its defaults, one that its caller detaches,
and one that is checked out. -/
def threeFates : World Scripted :=
  runAll {} [
    .create { plan := [{ fails := [(.setAutoCommit, .closed)] }] } {
      settings := {}
      target := { url := "db", autoCommit := some true } },
    .acquire 0 .ordinary false, .acquire 0 .ordinary false, .act (.detach 1),
    .acquire 0 .ordinary false]

/-- The first two are in no list any more, and yet no connection is lost. -/
theorem no_connection_lost_three :
    threeFates.listed 0 = [3] ∧ ∃ past, Run threeFates past ∧ ∀ conn ∈ [1, 2, 3],
      (threeFates.listed 0).count conn + times (HandsOver 0 conn) threeFates past +
        times (Dismisses 0 conn) threeFates past = 1 := by
  have hopened : ∀ conn ∈ [1, 2, 3], threeFates.env.Opened 0 conn := by decide +kernel
  have hw : Reachable threeFates := Reachable.runAll .refl _
  obtain ⟨past, hr⟩ := hw.exists_run
  exact ⟨by decide +kernel, past, hr, fun conn hconn => no_connection_lost hr (hopened conn hconn)⟩

end ConnPool.World
