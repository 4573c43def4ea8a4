import ConnPool.Backend.Scripted
import ConnPool.Proofs.World.Called
import ConnPool.Proofs.World.Redrawn

/-!
# Detached connections

A caller who detaches a handle becomes the owner of its connection, and nothing that the pool does
later may come in between. The test for success reads a list and a flag, which agree in every
reachable world. What makes the handover final is that no other handle that is in use was around the
connection, and that the pool gets no new handle around a connection that is in none of its lists.

* `Section.unlisted`: a connection that has left the lists of its pool does not come back.
* `Sections.unlisted`: it does not in any continuation.

**Theorem (`detach_hands_over`).** A valid handle is detached with success and any other is refused;
the pool is done with a connection that was detached.
-/

namespace ConnPool

open Pool

/-- A detach of a valid handle that is checked out takes it out, and says so in the log. -/
theorem Pool.detach_of_mem {S : Type} {r : Ref} {s : Scene S} (hr : r ∈ s.pool.active)
    (hv : (s.pool.handle r).valid = true) :
    detach r s = (true, { s with
      env := s.env.note (.detached (s.pool.handle r).raw.id)
      pool := s.pool.detached r }) := by
  have howned : (s.pool.active.contains r && (s.pool.handle r).valid) = true := by simp [hr, hv]
  unfold detach
  rw [bind_run, look_run, bind_run, update_run]
  simp only [howned]
  rfl

namespace World

variable {S : Type} [Bench S] {w w' w₂ : World S} {t n conn : Nat} {r : Ref} {h : Handle}

/-! ## Connections that are in no list -/

/-- A connection that a pool opened and has let go of does not come back to it. -/
theorem Section.unlisted (hs : Section w w') (hw : Reachable w) (hopened : w.env.Opened n conn)
    (hout : conn ∉ w.listed n) : conn ∉ w'.listed n := by
  have hkeep : ¬HandsOver n conn w w' := fun hover => hout (hover.leaves hw).1
  intro hin
  rcases (hs.custody hw hkeep).only hin with hold | ⟨-, hnew⟩
  · exact hout hold
  · exact hnew hopened

theorem Sections.unlisted (hs : Sections w w₂) (hw : Reachable w) (hopened : w.env.Opened n conn)
    (hout : conn ∉ w.listed n) : w₂.env.Opened n conn ∧ conn ∉ w₂.listed n := by
  induction hs with
  | refl => exact ⟨hopened, hout⟩
  | tail hs st ih =>
    have hw₁ := hw.trans hs
    exact ⟨ih.1.grows st.shift.grows, st.unlisted hw₁ ih.1 ih.2⟩

/-! ## The handover -/

/-- The caller of ticket `t` detached handle `r` of pool `n`, which is `p'` now. -/
structure TakenOut (t n : Nat) (r : Ref) (w : World S) (site : Site S) (w' : World S) (p' : Pool) :
    Prop where
  /-- No method of any connection was called. -/
  calls : w'.env.calls = w.env.calls
  after : w'.sites[n]? = some { site with pool := p' }
  listed : r ∈ site.pool.active
  unlisted : r ∉ p'.active
  /-- It is the only one that left the checkouts, -/
  active : p'.active = site.pool.active.erase r
  /-- and the only one that was retired. -/
  retired : p'.handle r = { site.pool.handle r with valid := false, data.state := .invalid }
  others : ∀ s ≠ r, p'.handle s = site.pool.handle s
  /-- The idle list, the counts and all else of the pool are the same. -/
  rest : p' = { site.pool with active := p'.active, handles := p'.handles }
  sites : ∀ m ≠ n, w'.sites[m]? = w.sites[m]?
  /-- Those who wait for the pool are woken. -/
  waiters : w'.waiters = w.waiters.map fun v => if v.site = n then { v with woken := true } else v
  /-- The caller has used the handle up, and holds the connection. -/
  tickets : w'.tickets = w.tickets.set t (.spent n r)
  loose : w'.loose = w.loose ++ [(n, (site.pool.handle r).raw)]

/-- Pool `n` has nothing to do with connection `conn` any more. -/
structure LeftAlone (n conn : Nat) (w : World S) : Prop where
  /-- It is neither checked out nor idle. -/
  unlisted : conn ∉ w.listed n
  /-- It is not called next, unless a caller uses it past the pool. -/
  uncalled : ∀ w', Section w w' → ¬UsesRaw n conn w w' →
    w.env.CallsOnly (fun m c => ¬(m = n ∧ c = conn)) w'.env
  /-- It is not handed out next. -/
  unhanded : ∀ w' t r, Section w w' → HandsOut n t r w w' →
    ∀ p, w'.pools[n]? = some p → p.connOf r ≠ conn

theorem leftAlone_of_unlisted (hw : Reachable w) (hopened : w.env.Opened n conn)
    (hout : conn ∉ w.listed n) : LeftAlone n conn w where
  unlisted := hout
  uncalled w' hs hraw := by
    refine (hs.callsOnly hw).mono fun m c hmay => ?_
    rintro ⟨rfl, rfl⟩
    rcases hmay with hin | hnew | huses
    · exact hout hin
    · exact hnew hopened
    · exact hraw huses
  unhanded w' t r hs hhands p hn heq := by
    obtain ⟨q, hq, hr⟩ := hhands.active hw hs
    cases Option.some.inj (hn.symm.trans hq)
    refine hs.unlisted hw hopened hout ?_
    rw [listed_eq hn, ← heq]
    exact List.mem_map_of_mem (mem_live_of_active hr)

/-- A handle that was used up stays so, and to drop it does nothing. -/
theorem dropped_of_spent (hw : Reachable w) (ht : w.tickets[t]? = some (.spent n r))
    (hs : Sections w w₂) : w₂.held? t = none ∧ w₂.act (.release t) = none := by
  obtain ⟨y, hy, hbecomes⟩ := hw.queued.becomes_sections hs ht
  cases hbecomes
  have hheld : w₂.held? t = none := by rw [held?, hy]
  exact ⟨hheld, by rw [act, hheld, Option.bind_none]⟩

/-- A valid handle that a caller has is taken out of the pool by a detach. -/
theorem detach_takesOut (hw : Reachable w) (hh : w.held? t = some (n, r, h))
    (hv : h.valid = true) :
    ∃ site w' p', w.sites[n]? = some site ∧ site.pool.handle r = h ∧
      w.act (.detach t) = some (.loose w.loose.length h.raw.id, w') ∧
        TakenOut t n r w site w' p' := by
  obtain ⟨hgiven, site, hn, rfl⟩ := held?_eq_some hh
  have hp := pools_getElem? hn
  have ho := hw.owners.owned n site.pool hp
  have hlisted : r ∈ site.pool.active :=
    ho.mem_active hv (hw.owners.lt_and_notMem_idle hp hgiven).2
  have hdetach : Pool.detach r (w.scene n site) = (true, { w.scene n site with
      env := w.env.note (.detached (site.pool.handle r).raw.id)
      pool := site.pool.detached r }) := detach_of_mem hlisted hv
  have hact : w.act (.detach t) = some
      ((((w.after n site (Pool.detach r (w.scene n site)).2).spend t n r).wakeAll n).hold n
        (site.pool.handle r).raw) := by
    rw [act, hh, Option.bind_some]
    dsimp only
    rw [actOn_of_site hn, hdetach]
    rfl
  rw [hdetach] at hact
  have hlt : r < (site.pool.checkedIn r).handles.length := lt_of_valid hv
  refine ⟨site, _, site.pool.detached r, hn, rfl, hact, ?_⟩
  constructor
  case calls => rfl
  case after => exact List.getElem?_set_self (List.getElem?_eq_some_iff.1 hn).1
  case listed => exact hlisted
  case unlisted => exact fun hr => (ho.nodup_active.mem_erase_iff.1 hr).1 rfl
  case active => rfl
  case retired => exact handle_withHandle_self _ hlt
  case others => exact fun s hs => handle_withHandle_ne _ _ hs
  case rest => rfl
  case sites => exact fun m hm => List.getElem?_set_ne hm.symm
  case waiters => rfl
  case tickets => rfl
  case loose => rfl

/-- What it comes to when the caller of ticket `t` detaches handle `r` of pool `n`. -/
structure HandsOverCleanly (t n : Nat) (r : Ref) (h : Handle) (w : World S) : Prop where
  succeeds : (∃ slot w', w.act (.detach t) = some (.loose slot h.raw.id, w')) ↔ h.valid = true
  /-- Otherwise the caller is told that the handle was retired, and no pool changes. -/
  refused : h.valid = false →
    w.act (.detach t) = some (.refused .invalidated, (w.spend t n r).wakeAll n)
  takenOut : ∀ slot w', w.act (.detach t) = some (.loose slot h.raw.id, w') →
    ∃ site p', w.sites[n]? = some site ∧ site.pool.handle r = h ∧ TakenOut t n r w site w' p'
  /-- Whatever happens after that, the pool leaves the connection alone. -/
  leftAlone : ∀ slot w' w₂, w.act (.detach t) = some (.loose slot h.raw.id, w') →
    Sections w' w₂ → LeftAlone n h.raw.conn w₂
  /-- The handle is used up in any case: there is nothing to return, now or later. -/
  dropped : ∀ answer w' w₂, w.act (.detach t) = some (answer, w') → Sections w' w₂ →
    w₂.held? t = none ∧ w₂.act (.release t) = none

/-- In every reachable world a caller can detach every valid handle and no other, and what is
detached is out of reach for the pool. -/
theorem detach_hands_over (hw : Reachable w) (hh : w.held? t = some (n, r, h)) :
    HandsOverCleanly t n r h w := by
  have hrefused : h.valid = false →
      w.act (.detach t) = some (.refused .invalidated, (w.spend t n r).wakeAll n) := fun hv =>
    (retired_fenced hw hh hv).detach
  have hvalid : ∀ {slot w'}, w.act (.detach t) = some (.loose slot h.raw.id, w') →
      h.valid = true := by
    intro slot w' hact
    refine Bool.eq_true_of_not_eq_false fun hv => ?_
    exact nomatch hact.symm.trans (hrefused hv)
  have hsection : ∀ {answer w'}, w.act (.detach t) = some (answer, w') → Section w w' := fun hact =>
    .step (.act (.detach t)) rfl hact
  constructor
  case succeeds =>
    refine ⟨fun ⟨slot, w', hact⟩ => hvalid hact, fun hv => ?_⟩
    obtain ⟨site, w', p', -, -, hact, -⟩ := detach_takesOut hw hh hv
    exact ⟨_, w', hact⟩
  case refused => exact hrefused
  case takenOut =>
    intro slot w' hact
    obtain ⟨site, w₁, p', hn, hhandle, hact₁, htaken⟩ := detach_takesOut hw hh (hvalid hact)
    cases hact.symm.trans hact₁
    exact ⟨site, p', hn, hhandle, htaken⟩
  case leftAlone =>
    intro slot w' w₂ hact hlater
    have hs := hsection hact
    have hover : HandsOver n h.raw.conn w w' := ⟨t, r, h, slot, hh, rfl, hact⟩
    obtain ⟨hin, hout, -⟩ := hover.leaves hw
    have hopened := (hw.opened_of_listed hin).grows hs.shift.grows
    have hw' : Reachable w' := hw.tail hs
    obtain ⟨hopened₂, hout₂⟩ := hlater.unlisted hw' hopened hout
    exact leftAlone_of_unlisted (hw'.trans hlater) hopened₂ hout₂
  case dropped =>
    intro answer w' w₂ hact hlater
    refine dropped_of_spent (n := n) (r := r) (hw.tail (hsection hact)) ?_ hlater
    have hlt := (List.getElem?_eq_some_iff.1 (tickets_of_held? hh).1).1
    obtain ⟨m, s, site, w₁, hh₁, -, rfl, hend⟩ := act_detach hact
    cases hh.symm.trans hh₁
    rcases hend with ⟨-, heq⟩ | ⟨-, heq⟩ <;> cases heq <;> exact List.getElem?_set_self hlt

/-- Two connections are checked out, and an acquire waits for a third. -/
def crowded : World Scripted :=
  runAll {} [
    .create {} { settings := { maxActive := 2 }, target := { url := "db" } },
    .acquire 0 .ordinary false, .acquire 0 .ordinary false, .acquire 0 .ordinary false]

/-- The first one is detached, and the acquire gets a new one. The caller goes on with the old one,
which is not closed when the pool is shut down. -/
theorem detach_hands_over_crowded :
    ∃ r h slot w', crowded.held? 0 = some (0, r, h) ∧ HandsOverCleanly 0 0 r h crowded ∧
      crowded.act (.detach 0) = some (.loose slot h.raw.id, w') ∧
      w'.waiters.map (fun v => (v.ticket, v.woken)) = [(2, true)] ∧
      let w₂ := w'.runAll [.useRaw 0 (.tell (.execute "select 1")), .act (.shutDown 0)]
      LeftAlone 0 1 w₂ ∧
        (w₂.env.calls.filter (·.deed.seesOff)).map (·.conn) = [2, 3] ∧
        (w₂.env.calls.filter (·.conn == 1)).map (·.deed.text) =
          ["execute(select 1)", "auto_commit", "is_closed", "connect(db,-,-)"] := by
  have hw : Reachable crowded := Reachable.runAll .refl _
  have hsome : (crowded.held? 0).isSome = true := by decide +kernel
  obtain ⟨⟨n, r, h⟩, hheld⟩ := Option.isSome_iff_exists.1 hsome
  have hfacts : ∀ x ∈ crowded.held? 0, x.1 = 0 ∧ x.2.2.valid = true ∧ x.2.2.raw.conn = 1 := by
    decide +kernel
  obtain ⟨rfl, hv, hconn⟩ := hfacts _ hheld
  have hclean := detach_hands_over hw hheld
  obtain ⟨slot, w', hact⟩ := hclean.succeeds.2 hv
  have hafter : ∀ x ∈ crowded.act (.detach 0),
      x.2.waiters.map (fun v => (v.ticket, v.woken)) = [(2, true)] ∧
      let w₂ := x.2.runAll [.useRaw 0 (.tell (.execute "select 1")), .act (.shutDown 0)]
      (w₂.env.calls.filter (·.deed.seesOff)).map (·.conn) = [2, 3] ∧
        (w₂.env.calls.filter (·.conn == 1)).map (·.deed.text) =
          ["execute(select 1)", "auto_commit", "is_closed", "connect(db,-,-)"] := by
    decide +kernel
  obtain ⟨hwoken, hclosed, hcalled⟩ := hafter _ hact
  have halone := hclean.leftAlone slot w' _ hact (runAll_sections w'
    [.useRaw 0 (.tell (.execute "select 1")), .act (.shutDown 0)])
  rw [hconn] at halone
  exact ⟨r, h, slot, w', hheld, hclean, hact, hwoken, halone, hclosed, hcalled⟩

end World

end ConnPool
