import ConnPool.Proofs.Pool.Bounded
import ConnPool.Proofs.Pool.Tally
import ConnPool.Proofs.Pool.Upkeep

/-!
# Faults of new connections

A pool judges a connection by its answers and by nothing else. So if a new connection cannot be
opened, or is not fit, then a call to it failed, or it said that it is closed (`Deed.failed`).

An acquire that meets bad candidates comes to the new connections in time. The idle connections are
no more than the bad candidates that it puts up with (`Pool.Spare`), and if it takes a checkout over
then there are no idle ones to discard before that.

* `Talk.Candid`: an attempt stops at a call that failed, and the journal has it.
* `openNew_heard`, `isFit_heard`: the same for what a search does with a new connection.

**Theorem (`search_heard`).** A search that cannot open a connection or gives up has met a new
connection to which a call failed. The other connections can be as bad as they like.
-/

namespace ConnPool

open Pool

/-! ## Calls that fail -/

/-- Whether a call fails, or is answered that the connection is closed. -/
def Deed.failed : Deed → Bool
  | .connect _ outcome | .tell _ outcome => !outcome.isOk
  | .ask .isClosed (.ok closed) => closed
  | .ask _ outcome => !outcome.isOk

/-- An attempt to open a connection that was refused. -/
theorem Env.Opens.heard {n conn : Nat} {target : Target} {fault : Fault} {e e' : Env}
    (h : e.Opens n conn target (.error fault) e') : e.Heard Deed.failed n conn e' := by
  obtain ⟨took, notices, hl⟩ := h
  have hcall : e.Heard Deed.failed n conn
      (e.hear ⟨n, conn, .connect target (.error fault)⟩ took notices) :=
    ⟨[_], rfl, _, List.mem_singleton_self _, rfl, rfl, rfl⟩
  exact hcall.before hl.grows

namespace Talk

variable {S : Type} {α β : Type} {conn : Nat}

theorem heard_exchange {kind : Deed → Bool} {deed : Except Fault α → Deed}
    {call : S → Reply α × S} {l : Line S}
    (h : kind (deed ((exchange conn deed call).run l).1) = true) :
    l.env.Heard kind l.site conn ((exchange conn deed call).run l).2.env :=
  ⟨[_], rfl, _, List.mem_singleton_self _, rfl, rfl, h⟩

/-- The attempt is about one connection, and stops at the first call to it that fails. -/
structure Candid (conn : Nat) (a : Attempt S α) : Prop where
  concerns : Concerns [conn] a.run
  failed : ∀ l fault, (a.run l).1 = .error fault →
    l.env.Heard Deed.failed l.site conn (a.run l).2.env

namespace Candid

theorem pure (x : α) : Candid conn (Pure.pure x : Attempt S α) := ⟨.pure _, nofun⟩

theorem bind {a : Attempt S α} {f : α → Attempt S β} (ha : Candid conn a)
    (hf : ∀ x, Candid conn (f x)) : Candid conn (a >>= f) := by
  refine ⟨ha.concerns.attempt fun x => (hf x).concerns, fun l fault h => ?_⟩
  rw [attempt_run] at h ⊢
  cases hfirst : (a.run l).1 with
  | error fault => exact ha.failed l fault hfirst
  | ok x =>
    rw [hfirst] at h
    obtain ⟨hsite, hlater⟩ := ha.concerns l
    have hrest := (hf x).failed (a.run l).2 fault h
    rw [hsite] at hrest
    exact hrest.after hlater.grows

end Candid

variable [Backend S]

theorem heard_ask (conn : Nat) (question : Question) (l : Line S)
    (h : (Deed.ask question ((ask conn question : Attempt S Bool).run l).1).failed = true) :
    l.env.Heard Deed.failed l.site conn ((ask conn question : Attempt S Bool).run l).2.env :=
  heard_exchange h

theorem candid_ask (conn : Nat) (question : Question) :
    Candid conn (ask conn question : Attempt S Bool) := by
  refine ⟨concerns_ask conn question, fun l fault h => heard_ask conn question l ?_⟩
  rw [h]
  cases question <;> rfl

theorem candid_tell (conn : Nat) (command : Command) :
    Candid conn (tell conn command : Attempt S Unit) := by
  refine ⟨concerns_tell conn command, fun l fault h => ?_⟩
  unfold tell at h ⊢
  split at h
  · next htakes =>
    rw [if_pos htakes]
    apply heard_exchange
    rw [h]
    rfl
  · exact nomatch h

theorem candid_clearPending (conn : Nat) : Candid conn (clearPending conn : Attempt S Unit) := by
  refine (candid_ask conn .autoCommit).bind fun on => ?_
  cases on with
  | true => exact .pure ()
  | false => exact candid_tell conn .rollback

theorem candid_prepare (conn : Nat) (target : Target) :
    Candid conn (prepare conn target : Attempt S Unit) := by
  rw [prepare_eq]
  induction target.defaults with
  | nil => exact .pure ()
  | cons command rest ih => exact (candid_tell conn command).bind fun _ => ih

end Talk

/-! ## Probes that fail -/

namespace Probe

variable {S : Type} [Backend S] {p : Probe} {conn : Nat} {l : Line S}

theorem candid_ping (p : Probe) (conn : Nat) :
    Talk.Candid conn (p.ping conn : Attempt S Unit) :=
  (Talk.candid_tell conn (.execute p.query)).bind fun _ => Talk.candid_clearPending conn

/-- What is found wrong with a ping is a call that failed. -/
theorem heard_pingOrClose (h : (p.pingOrClose conn l).1.isSome = true) :
    l.env.Heard Deed.failed l.site conn (p.pingOrClose conn l).2.env := by
  have hnote : (Talk.note (.pinging p.query) l).2 =
      { l with env := l.env.note (.pinging p.query) } := rfl
  unfold pingOrClose at h ⊢
  rw [Talk.bind_run, Talk.bind_run, hnote] at h ⊢
  have hping := (candid_ping p conn).failed { l with env := l.env.note (.pinging p.query) }
  generalize (p.ping conn : Attempt S Unit).run { l with env := l.env.note (.pinging p.query) } =
    res at h hping ⊢
  obtain ⟨outcome, l₁⟩ := res
  cases outcome with
  | ok _ => exact absurd h Bool.false_ne_true
  | error fault =>
    have hheard := (hping fault rfl).after ((Env.Grows.refl l.env).note _)
    -- The connection is closed after that, which the journal has besides.
    refine hheard.before (Talk.Concerns.grows [conn] ?_ l₁)
    refine (Talk.Concerns.note _).bind fun _ =>
      (Talk.concerns_tell conn .close).bind fun second => ?_
    cases second with
    | ok _ => exact .pure _
    | error _ => exact (Talk.Concerns.note _).bind fun _ => .pure _

/-- So is what is found wrong with a probe, if the connection does not say that it is closed. -/
theorem heard_examine (p : Probe) (conn : Nat) (unused : Span) (l : Line S)
    (h : (p.examine conn unused l).1.healthy = false) :
    l.env.Heard Deed.failed l.site conn (p.examine conn unused l).2.env := by
  have hnow : (Talk.now l).2 = l := rfl
  unfold examine at h ⊢
  rw [Talk.bind_run, Talk.bind_run, hnow] at h ⊢
  have hask := Talk.heard_ask conn .isClosed l
  obtain ⟨hsite, hlater⟩ := Talk.concerns_ask conn .isClosed l
  generalize (Talk.ask conn .isClosed : Attempt S Bool).run l = res at h hask hsite hlater ⊢
  obtain ⟨outcome, l₁⟩ := res
  rcases outcome with fault | _ | _
  · exact hask rfl
  · dsimp only at h hsite hlater ⊢
    by_cases hp : p.pings unused = true
    · rw [if_pos hp, Talk.bind_run] at h ⊢
      cases hwrong : (p.pingOrClose conn l₁).1 with
      | some error =>
        have hheard := heard_pingOrClose (Option.isSome_of_mem hwrong)
        rw [hsite] at hheard
        exact hheard.after hlater.grows
      | none =>
        rw [hwrong] at h
        exact absurd h.symm Bool.false_ne_true
    · rw [if_neg hp] at h
      exact nomatch h
  · exact hask rfl

end Probe

namespace Pool

variable {S : Type} [Backend S]

/-! ## Candidates that fail -/

theorem isSound_heard {r : Ref} {s : Scene S} (hv : (s.pool.handle r).valid = true) :
    Ends (isSound r) s fun sound s' => sound = false →
      s.env.Heard Deed.failed s.site (s.pool.connOf r) s'.env := by
  refine .bind <| .handleAt ?_
  rw [if_pos hv]
  refine .bind <| .look <| .bind <| .now <| .bind <| ends_talk fun s₁ hp₁ hl₁ => ?_
  have hheard := Probe.heard_examine (.ofSettings s.pool.settings) (s.pool.connOf r)
    ((s.pool.handle r).data.unusedFor s.env.now) s.toLine
  rw [← hl₁] at hheard
  generalize ((Probe.ofSettings s.pool.settings).examine (s.pool.connOf r)
    ((s.pool.handle r).data.unusedFor s.env.now) s.toLine).1 = verdict at hheard ⊢
  cases hhealthy : verdict.healthy with
  | true => exact .pure fun hbad => hheard (hhealthy.trans hbad)
  | false =>
    exact .bind <| .note <| .pure fun _ => (hheard hhealthy).before ((Env.Grows.refl _).note _)

theorem isCleared_heard (r : Ref) (s : Scene S) :
    Ends (isCleared r) s fun cleared s' => cleared = false →
      s.env.Heard Deed.failed s.site (s.pool.connOf r) s'.env := by
  refine .bind <| .handleAt <| .bind <| ends_talk fun s₁ hp₁ hl₁ => ?_
  have hheard := (Talk.candid_clearPending (s.pool.connOf r)).failed s.toLine
  rw [← hl₁] at hheard
  generalize ((Talk.clearPending (s.pool.connOf r) : Attempt S Unit).run s.toLine).1 = outcome
    at hheard ⊢
  cases outcome with
  | ok _ => exact .pure nofun
  | error fault =>
    exact .bind <| .note <| .pure fun _ => (hheard fault rfl).before ((Env.Grows.refl _).note _)

/-- A valid candidate that is not fit has failed in some call. -/
theorem isFit_heard {r : Ref} {s : Scene S} (hv : (s.pool.handle r).valid = true) :
    Ends (isFit r) s fun fit s' => fit = false →
      s.env.Heard Deed.failed s.site (s.pool.connOf r) s'.env := by
  have hsound : Ends (isSound r) s fun sound s₁ => s.Chats [s.pool.connOf r] s₁ ∧
      (sound = false → s.env.Heard Deed.failed s.site (s.pool.connOf r) s₁.env) :=
    ⟨isSound_chats r s, isSound_heard hv⟩
  refine .bind <| hsound.mono fun sound s₁ ⟨h₁, hheard⟩ => ?_
  cases sound with
  | false => exact .pure hheard
  | true =>
    refine (isCleared_heard r s₁).mono fun cleared s₂ hheard hbad => ?_
    have hafter := hheard hbad
    rw [h₁.site, connOf, h₁.pool] at hafter
    exact hafter.after h₁.grows

/-- A connection that could not be opened has failed in some call. -/
theorem openNew_heard (login : Option (String × String)) (s : Scene S) :
    Ends (openNew login) s fun outcome s' => ∀ e, outcome = .error e →
      s.env.Heard Deed.failed s.site (s.pool.attempts + 1) s'.env := by
  refine .bind <| .look <| .bind <| .update <| .bind <|
    ends_connect fun outcome s₁ hpool hsite hopens => ?_
  dsimp only at hsite hopens
  cases outcome with
  | error fault => exact .pure fun _ _ => hopens.heard
  | ok _ =>
    refine .bind <| ends_talk fun s₂ hp₂ hl₂ => ?_
    have hheard := (Talk.candid_prepare (s.pool.attempts + 1)
      (s.pool.target.withLogin login)).failed s₁.toLine
    rw [← hl₂, hsite] at hheard
    generalize ((Talk.prepare (s.pool.attempts + 1) (s.pool.target.withLogin login) :
      Attempt S Unit).run s₁.toLine).1 = outcome at hheard ⊢
    cases outcome with
    | error fault =>
      refine .bind <| ends_dispose fun s₃ h₃ _ => .pure fun _ _ => ?_
      exact ((hheard fault rfl).after hopens.grows).before h₃.grows
    | ok _ => exact .bind <| ends_wrap <| .bind <| .handleAt <| .bind <| .note <| .pure nofun

/-! ## The bad candidates that a search puts up with -/

/-- A search that puts up with `tolerated` more bad candidates can discard all that the pool has to
offer besides new connections. If there is no room for one, it can discard a checkout that it takes
over, too. -/
structure Spare (tolerated : Nat) (p : Pool) : Prop where
  idle : p.idle.length ≤ tolerated
  total : p.active.length + p.idle.length ≤ p.settings.maxActive
  room : tolerated = 0 → p.active.length + p.idle.length < p.settings.maxActive

/-- A candidate is a new connection, or one that the search can discard. -/
theorem Spare.seek {n tolerated : Nat} {raised : Bool} {e e' : Env} {p p' : Pool} {a b : Acquire}
    {r : Ref} (h : p.Spare tolerated)
    (st : Seek n raised ⟨e, p, .seeking a⟩ ⟨e', p', .judging b r⟩) :
    p.attempts ≤ p'.attempts ∧ ((∃ t, tolerated = t + 1 ∧ p'.Spare t) ∨
      p'.connOf r = p.attempts + 1 ∧ (p'.handle r).valid = true) := by
  obtain ⟨hidle, htotal, hroom⟩ := h
  cases st with
  | @takeIdle _ _ _ r rest _ hi =>
    rw [hi] at hidle htotal
    simp only [List.length_cons] at hidle htotal
    refine ⟨Nat.le_refl _, .inl ⟨tolerated - 1, by omega, ?_⟩⟩
    constructor <;> dsimp only <;> omega
  | openNew =>
    refine ⟨Nat.le_succ _, .inr ⟨?_, ?_⟩⟩
    · exact congrArg (·.raw.conn) (handle_add_self _ _)
    · exact congrArg (·.valid) (handle_add_self _ _)
  | @takeOver _ _ _ r rest _ _ _ hi hf ha =>
    rw [hi, ha] at htotal hroom
    rw [ha] at hf
    simp only [List.length_cons, List.length_nil] at htotal hroom hf
    refine ⟨Nat.le_refl _, .inl ⟨tolerated - 1, by omega, ?_⟩⟩
    constructor <;> simp [takenOver, passOn, add, withHandle, hi] <;> omega

end Pool

/-! ## Searches -/

/-- The turn ends because no connection could be opened, or because there were too many bad
candidates. -/
def Turn.spoiled : Turn → Bool
  | .done _ (.error (.factory _)) | .done _ (.error (.exhausted _)) => true
  | _ => false

theorem Turn.spoiled_of_isUnserved {turn : Turn} (h : turn.isUnserved = true) :
    turn.spoiled = false := by
  rcases turn with ⟨a, e | r⟩ | ⟨a, d⟩
  · cases e <;> first | rfl | cases h
  · rfl
  · rfl

namespace Pool

variable {S : Type}

/-- If the turn was spoiled, then by a connection that pool `n` had not asked for before. -/
def Spoils (n asked : Nat) (s : Scene S) (turn : Turn) (s' : Scene S) : Prop :=
  turn.spoiled = true → ∃ conn, asked < conn ∧ s.env.Heard Deed.failed n conn s'.env

theorem Spoils.after {n asked : Nat} {s s₁ s' : Scene S} {turn : Turn}
    (h : Spoils n asked s₁ turn s') (he : s.env.Grows s₁.env) : Spoils n asked s turn s' := by
  intro hspoiled
  obtain ⟨conn, hnew, hheard⟩ := h hspoiled
  exact ⟨conn, hnew, hheard.after he⟩

variable [Backend S]

theorem nextCandidate_heard (login : Option (String × String)) (s : Scene S) :
    Ends (nextCandidate login) s fun found s' => ∀ e, found = .error e →
      s.env.Heard Deed.failed s.site (s.pool.attempts + 1) s'.env := by
  refine .bind <| .look ?_
  split
  · exact .bind <| .update <| .bind <| .note <| .pure nofun
  · split
    · refine .bind <| (openNew_heard login s).mono fun outcome s₁ hheard => .pure fun e he => ?_
      cases outcome with
      | error cause => exact hheard cause rfl
      | ok r => exact nomatch he
    · exact nofun

/-- What is left to show of a search is how it goes on after a candidate that it can discard. -/
theorem search_heard_of {n asked : Nat} {raised : Bool} {tolerated : Nat} {a : Acquire}
    {s : Scene S} (hs : s.site = n) (hspare : s.pool.Spare tolerated)
    (hasked : asked ≤ s.pool.attempts)
    (hon : ∀ t (s₁ : Scene S), tolerated = t + 1 → s₁.site = n → s₁.pool.Spare t →
      asked ≤ s₁.pool.attempts →
      Ends (search raised t { a with bad := a.bad + 1 }) s₁ (Spoils n asked s₁)) :
    Ends (search raised tolerated a) s (Spoils n asked s) := by
  subst hs
  unfold search
  refine .bind <| .look ?_
  by_cases hc : s.pool.closed = true
  · rw [if_pos hc]
    exact .pure fun hspoiled => absurd hspoiled Bool.false_ne_true
  rw [if_neg hc]
  have hnext : Ends (nextCandidate a.login) s fun found s₁ => Offers raised a s found s₁ ∧
      ∀ e, found = .error e → s.env.Heard Deed.failed s.site (s.pool.attempts + 1) s₁.env :=
    ⟨nextCandidate_offers raised a s (Bool.eq_false_of_not_eq_true hc),
      nextCandidate_heard a.login s⟩
  refine .bind <| hnext.mono fun found s₁ hfound => ?_
  obtain ⟨hoffers, hheard⟩ := hfound
  cases hoffers with
  | @fails cause =>
    exact .pure fun _ => ⟨_, Nat.lt_succ_of_le hasked, hheard cause rfl⟩
  | nothing h =>
    refine (wait_unserved raised a s).mono fun turn s₂ hturn hspoiled => ?_
    have hunspoiled := turn.spoiled_of_isUnserved hturn.1
    exact absurd (hunspoiled.symm.trans hspoiled) Bool.false_ne_true
  | @finds r _ hs₁ st =>
    obtain ⟨hattempts, hcandidate⟩ := hspare.seek st
    have hfit : Ends (isFit r) s₁ fun fit s₂ => s₁.Chats [s₁.pool.connOf r] s₂ ∧
        ((s₁.pool.handle r).valid = true → fit = false →
          s₁.env.Heard Deed.failed s₁.site (s₁.pool.connOf r) s₂.env) :=
      ⟨((isFit_judges r s₁).1), fun hv => isFit_heard hv⟩
    refine .bind <| hfit.mono fun fit s₂ hjudged => ?_
    obtain ⟨h₂, hheard₂⟩ := hjudged
    cases fit with
    | true =>
      exact .bind <| ends_handOut <| .pure fun hspoiled => absurd hspoiled Bool.false_ne_true
    | false =>
      refine .bind <| .chats (reject_chats r s₂) fun _ s₃ h₃ => ?_
      have hgrows : s₁.env.Grows s₃.env := h₂.grows.trans h₃.grows
      have hpool : s₃.pool = s₁.pool.rejected r := by rw [h₃.pool, h₂.pool]
      have hsite : s₃.site = s.site := h₃.site.trans (h₂.site.trans hs₁)
      rcases hcandidate with ⟨t, rfl, hspare₁⟩ | ⟨hconn, hv⟩
      · have hspare₃ : s₃.pool.Spare t := by
          rw [hpool]
          exact ⟨hspare₁.idle, hspare₁.total, hspare₁.room⟩
        have hasked₃ : asked ≤ s₃.pool.attempts := by
          rw [hpool]
          exact Nat.le_trans hasked hattempts
        exact (hon t s₃ rfl hsite hspare₃ hasked₃).mono fun _ _ h => h.after (st.grows.trans hgrows)
      · have hnew : s₁.env.Heard Deed.failed s.site (s.pool.attempts + 1) s₂.env := by
          have hfailed := hheard₂ hv rfl
          rw [hs₁] at hfailed
          exact hconn ▸ hfailed
        have hrest : Ends (searchOn raised tolerated { a with bad := a.bad + 1 }) s₃
            fun _ s' => s₃.env.Grows s'.env := by
          cases tolerated with
          | zero => exact .bind <| .note <| .pure ((Env.Grows.refl _).note _)
          | succ t => exact (upkeep_grows.search_serves raised t _ s₃).keeps
        refine hrest.mono fun _ _ hlater _ => ⟨_, Nat.lt_succ_of_le hasked, ?_⟩
        exact (hnew.after st.grows).before (h₃.grows.trans hlater)

/-- If a search that has bad candidates to spare cannot open a connection, or gives up, then it is
for a new connection that failed. -/
theorem search_heard {n asked : Nat} (raised : Bool) (tolerated : Nat) (a : Acquire) (s : Scene S)
    (hs : s.site = n) (hspare : s.pool.Spare tolerated) (hasked : asked ≤ s.pool.attempts) :
    Ends (search raised tolerated a) s (Spoils n asked s) := by
  induction tolerated generalizing a s with
  | zero => exact search_heard_of hs hspare hasked fun _ _ heq => nomatch heq
  | succ tolerated ih =>
    refine search_heard_of hs hspare hasked fun t s₁ heq hs₁ hspare₁ hasked₁ => ?_
    cases heq
    exact ih { a with bad := a.bad + 1 } s₁ hs₁ hspare₁ hasked₁

/-- An acquire that has met no bad candidate yet has bad candidates to spare, if the settings put up
with one at all. -/
theorem Spare.of_bounded {p : Pool} (h : Bounded p none)
    (hcount : p.settings.maxIdle ≤ maxCount)
    (hone : 1 ≤ p.settings.maxIdle + p.settings.badTolerance) :
    p.Spare p.settings.badLimit := by
  have htotal := h.total
  have hidle := h.idle
  have hpos : 1 ≤ maxCount := by decide
  unfold Settings.badLimit
  constructor
  · omega
  · simpa using htotal
  · omega

theorem begin_heard (raised : Bool) (login : Option (String × String)) (s : Scene S)
    (hspare : s.pool.Spare s.pool.settings.badLimit) :
    Ends (begin raised login) s (Spoils s.site s.pool.attempts s) :=
  .bind <| .now <| .bind <| .look <| search_heard raised _ _ s rfl hspare (Nat.le_refl _)

theorem resume_heard (raised : Bool) (since : Instant) {a : Acquire} (hbad : a.bad = 0)
    (s : Scene S) (hspare : s.pool.Spare s.pool.settings.badLimit) :
    Ends (resume raised since a) s (Spoils s.site s.pool.attempts s) := by
  refine .bind <| .now <| .bind <| .count ?_
  split
  · exact .bind <| .note <| .pure nofun
  · refine .bind <| .look ?_
    rw [hbad]
    have hspare₁ : (s.pool.roused since s.env.now).Spare s.pool.settings.badLimit :=
      ⟨hspare.idle, hspare.total, hspare.room⟩
    exact search_heard raised _ a { s with pool := s.pool.roused since s.env.now } rfl hspare₁
      (Nat.le_refl _)

end Pool

end ConnPool
