import ConnPool.Backend.Scripted
import ConnPool.Proofs.World.Shift

/-!
# Who owns a connection

In a reachable world the lists of each pool name the owners of its connections (`Owned`), and the
handles that callers were given are not idle. The two hold one another up: an operation on a handle
that is idle could break the first, and only what the first says of an acquire keeps the second.
`Owners` is their conjunction, and `Reachable.owners` shows it by induction over critical sections.

**Theorem (`owners_apart`).** No two valid handles share a connection, neither in the lists of a
pool nor in the hands of callers.
-/

namespace ConnPool.World

open Pool

variable {S : Type}

/-! ## The invariant -/

/-- The pools own their connections, and callers hold handles that are not idle, each from one
acquire only. -/
structure Owners (w : World S) : Prop where
  owned : ∀ (n : Nat) (p : Pool), w.pools[n]? = some p → Owned w.env p (p.live none)
  given : ∀ (t n : Nat) (r : Ref), w.Given t n r →
    ∃ p, w.pools[n]? = some p ∧ r < p.handles.length ∧ r ∉ p.idle
  once : ∀ (t t' n : Nat) (r : Ref), w.Given t n r → w.Given t' n r → t = t'

theorem not_given_empty (t n : Nat) (r : Ref) : ¬({} : World S).Given t n r := by
  simp [Given]

theorem owners_empty : Owners ({} : World S) where
  owned n p hn := by simp [pools] at hn
  given t n r hg := absurd hg (not_given_empty t n r)
  once t _ n r hg := absurd hg (not_given_empty t n r)

/-- A turn keeps the owners of its pool, and what callers were given out of the idle list. -/
theorem seeks_owned {n : Nat} {raised : Bool} {g g' : Stage} {given : Ref → Prop}
    (hs : Seeks n raised g g') (ho : Owned g.env g.pool (g.pool.live g.phase.hand))
    (h : Spares given g) :
    Owned g'.env g'.pool (g'.pool.live g'.phase.hand) ∧ Spares given g' := by
  induction hs with
  | refl => exact ⟨ho, h⟩
  | tail _ st ih => exact ⟨ih.1.seek st, ih.2.seek st⟩

variable {w w' : World S}

theorem Owners.lt_and_notMem_idle (h : Owners w) {t n : Nat} {p : Pool} {r : Ref}
    (hn : w.pools[n]? = some p) (hg : w.Given t n r) : r < p.handles.length ∧ r ∉ p.idle := by
  obtain ⟨q, hq, hr⟩ := h.given t n r hg
  exact Option.some.inj (hq.symm.trans hn) ▸ hr

/-- What callers were given has nothing to do with a turn that starts. -/
theorem Owners.spares (h : Owners w) {n : Nat} {p : Pool} {phase : Phase}
    (hn : w.pools[n]? = some p) (hphase : phase.Starts) :
    Spares (fun r => ∃ t, w.Given t n r) ⟨w.env, p, phase⟩ := by
  constructor
  case lt =>
    rintro r ⟨t, ht⟩
    exact (h.lt_and_notMem_idle hn ht).1
  case idle =>
    rintro r ⟨t, ht⟩
    exact (h.lt_and_notMem_idle hn ht).2
  case hand =>
    intro a r hr
    exact absurd (hphase.hand.symm.trans hr) nofun
  case handed =>
    intro a r hr
    cases hr
    exact hphase.elim

theorem Owners.once_beside (h : Owners w) (hb : Beside w w') (t t' n : Nat) (r : Ref)
    (ht : w'.Given t n r) (ht' : w'.Given t' n r) : t = t' :=
  h.once t t' n r (hb.given t n r ht) (hb.given t' n r ht')

theorem Owners.shift [Bench S] (h : Owners w) (hs : Shift w w') : Owners w' := by
  cases hs with
  | aside hb hp =>
    constructor
    case owned =>
      intro n p hn
      exact (h.owned n p (hp ▸ hn)).later hb.env.nextRaw
    case given =>
      intro t n r hg
      rw [hp]
      exact h.given t n r (hb.given t n r hg)
    case once => exact h.once_beside hb
  | create settings target hset hb hp =>
    constructor
    case owned =>
      intro n p hn
      rcases pools_append_cases hp hn with rfl | hn
      · exact .empty _ settings target
      · exact (h.owned n p hn).later hb.env.nextRaw
    case given =>
      intro t n r hg
      obtain ⟨p, hn, hr⟩ := h.given t n r (hb.given t n r hg)
      exact ⟨p, pools_append_of_some hp hn, hr⟩
    case once => exact h.once_beside hb
  | @turn n raised p p' phase turn ticket hn hp hphase hseeks hg hv =>
    have hspares := h.spares hn hphase
    have howned : Owned w.env p (p.live phase.hand) := hphase.hand ▸ h.owned n p hn
    obtain ⟨howned, hspares⟩ := seeks_owned hseeks howned hspares
    have hn' := pools_set_self hn hp
    constructor
    case owned =>
      intro m q hm
      rcases pools_cases hn hp hm with ⟨rfl, rfl⟩ | hm
      · exact howned
      · exact (h.owned m q hm).later hseeks.grows.nextRaw
    case given =>
      intro t m r ht
      rcases hg t m r ht with ht | ⟨rfl, rfl, a, rfl⟩
      · obtain ⟨q, hq, hlt, hidle⟩ := h.given t m r ht
        by_cases hmn : m = n
        · subst hmn
          exact ⟨p', hn', hspares.lt r ⟨t, ht⟩, hspares.idle r ⟨t, ht⟩⟩
        · exact ⟨q, pools_set_of_ne hp hmn hq, hlt, hidle⟩
      · have hr := (hspares.handed a r rfl).1
        exact ⟨p', hn', howned.lt (mem_live_of_active hr), howned.notMem_idle hr⟩
    case once =>
      intro t t' m r ht ht'
      rcases hg t m r ht with ht | ⟨rfl, rfl, a, rfl⟩ <;>
        rcases hg t' m r ht' with ht' | ⟨rfl, heq, b, hb⟩
      · exact h.once t t' m r ht ht'
      · subst heq hb
        exact absurd ⟨t, ht⟩ (hspares.handed b r rfl).2
      · exact absurd ⟨t', ht'⟩ (hspares.handed a r rfl).2
      · rfl
  | @yield n who p p' hb hn hp hw hy hv =>
    have hidle : ∀ r ∈ who.ref?, r ∉ p.idle := fun r hr =>
      (hw r hr).elim fun t ht => (h.lt_and_notMem_idle hn ht).2
    have hn' := pools_set_self hn hp
    constructor
    case owned =>
      intro m q hm
      rcases pools_cases hn hp hm with ⟨rfl, rfl⟩ | hm
      · exact (h.owned m p hn).yield hy hidle
      · exact (h.owned m q hm).later hb.env.nextRaw
    case given =>
      intro t m r ht
      obtain ⟨q, hq, hlt, hidle⟩ := h.given t m r (hb.given t m r ht)
      by_cases hmn : m = n
      · subst hmn
        cases Option.some.inj (hq.symm.trans hn)
        exact ⟨p', hn', hy.spares hlt hidle⟩
      · exact ⟨q, pools_set_of_ne hp hmn hq, hlt, hidle⟩
    case once => exact h.once_beside hb

variable [Bench S]

theorem Reachable.owners {w : World S} (hw : Reachable w) : Owners w := by
  induction hw with
  | refl => exact owners_empty
  | tail _ hs ih => exact ih.shift hs.shift

/-! ## What it says of callers -/

/-- No raw connection has two owners in a world. -/
structure Exclusive (w : World S) : Prop where
  /-- No handle is listed twice. -/
  once : ∀ site ∈ w.sites, (site.pool.active ++ site.pool.idle).Nodup
  /-- The raw connections of the listed handles differ, at the backend and by number. -/
  apart : ∀ site ∈ w.sites,
    ((site.pool.active ++ site.pool.idle).map fun r => (site.pool.handle r).raw.conn).Nodup ∧
      ((site.pool.active ++ site.pool.idle).map fun r => (site.pool.handle r).raw.id).Nodup
  /-- The valid handles are those that are listed. -/
  valid : ∀ site ∈ w.sites, ∀ r,
    (site.pool.handle r).valid = true ↔ r ∈ site.pool.active ∨ r ∈ site.pool.idle
  /-- A valid handle that a caller holds is checked out. -/
  held : ∀ t n r h, w.held? t = some (n, r, h) → h.valid = true →
    ∃ site, w.sites[n]? = some site ∧ r ∈ site.pool.active
  /-- Valid handles that callers hold are around different raw connections. -/
  hands : ∀ t t' n n' r r' h h', t ≠ t' → w.held? t = some (n, r, h) →
    w.held? t' = some (n', r', h') → h.valid = true → h'.valid = true →
      (n, h.raw.conn) ≠ (n', h'.raw.conn)

/-- In every reachable world each raw connection has at most one owner. -/
theorem owners_apart {w : World S} (hw : Reachable w) : Exclusive w := by
  have howners := hw.owners
  have howned : ∀ site ∈ w.sites, Owned w.env site.pool (site.pool.live none) := by
    intro site hsite
    obtain ⟨n, hn⟩ := List.mem_iff_getElem?.1 hsite
    exact howners.owned n site.pool (pools_getElem? hn)
  have hheld : ∀ t n r h, w.held? t = some (n, r, h) → h.valid = true →
      ∃ site, w.sites[n]? = some site ∧ h = site.pool.handle r ∧ r ∈ site.pool.active := by
    intro t n r h hh hv
    obtain ⟨hg, site, hn, rfl⟩ := held?_eq_some hh
    have hidle := (howners.lt_and_notMem_idle (pools_getElem? hn) hg).2
    exact ⟨site, hn, rfl, (howned site (List.mem_of_getElem? hn)).mem_active hv hidle⟩
  constructor
  case once => exact fun site hsite => (howned site hsite).nodup
  case apart =>
    intro site hsite
    have ho := howned site hsite
    refine ⟨ho.nodup.map_on ho.inj, ho.nodup.map_on fun r hr s hs heq => ho.inj r hr s hs ?_⟩
    exact congrArg Raw.conn (ho.raw_eq r (ho.lt hr) s (ho.lt hs) (.inl heq))
  case valid => exact fun site hsite r => ((howned site hsite).valid r).trans mem_live_none
  case held =>
    intro t n r h hh hv
    obtain ⟨site, hn, -, hr⟩ := hheld t n r h hh hv
    exact ⟨site, hn, hr⟩
  case hands =>
    intro t t' n n' r r' h h' hne hh hh' hv hv' heq
    obtain ⟨site, hn, rfl, hr⟩ := hheld t n r h hh hv
    obtain ⟨site', hn', rfl, hr'⟩ := hheld t' n' r' h' hh' hv'
    obtain ⟨rfl, hconn⟩ := Prod.mk.inj heq
    cases Option.some.inj (hn.symm.trans hn')
    have ho := howned site (List.mem_of_getElem? hn)
    have hrr := ho.inj r (mem_live_of_active hr) r' (mem_live_of_active hr') hconn
    subst hrr
    exact hne (howners.once t t' n r (held?_eq_some hh).1 (held?_eq_some hh').1)

/-- Two callers hold connections of one pool, after one that was there before gave its own back. -/
theorem owners_apart_two :
    let w : World Scripted := runAll {} [
      .create {} { settings := {}, target := { url := "db" } }, .acquire 0 .ordinary false,
      .acquire 0 .ordinary false, .act (.release 0), .acquire 0 .ordinary false]
    (w.held? 1).isSome = true ∧ (w.held? 2).isSome = true ∧ Exclusive w :=
  ⟨by decide +kernel, by decide +kernel, owners_apart (Reachable.runAll .refl _)⟩

end ConnPool.World
