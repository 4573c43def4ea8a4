import ConnPool.Proofs.Backend.Runs

/-!
# How many connections are open

A backend without a database counts the connections that were opened and those that were closed, and
takes the difference for the connections that are open now. Each connection says for itself whether
it is closed. The two agree as long as a connection comes to be closed by a call to close it, which
is counted once. But a connection may also be closed from the start. It is counted as opened, and no
call to close it is counted, so it counts as open for ever.

**Theorem (`openNow_counts`).** After any run, as many connections count as opened as attempts to
connect succeeded. As many count as open as do not report themselves closed, plus those that were
closed from the start.

The invariant (`Books`) has the connections of the backend by name, in the order in which they were
opened, and counts those that are closed. An order to a connection changes one entry, as no name
occurs twice (`exists_put`).
-/

namespace ConnPool.Mock

/-! ## What a run says -/

/-- The connection that an event opened. -/
def Event.opened? : Event → Option Nat
  | .call conn (.connect _ (.ok _)) => some conn
  | _ => none

/-- Whether from an event on connections are closed from the start, if that is what it is about. -/
def Event.bornClosed? : Event → Option Bool
  | .order (.bornClosed on) => some on
  | _ => none

/-- The connections that were opened, latest first. -/
def opens (past : List Event) : List Nat := past.filterMap Event.opened?

/-- Whether connections are closed from the start after what has happened since `m₀`. -/
def bornClosedAfter (m₀ : Mock) (past : List Event) : Bool :=
  (past.findSome? Event.bornClosed?).getD m₀.bornClosed

/-- How many of the connections that were opened since `m₀` were closed from the start. -/
def stillborn (m₀ : Mock) : List Event → Nat
  | [] => 0
  | e :: past =>
    stillborn m₀ past + if e.opened?.isSome && bornClosedAfter m₀ past then 1 else 0

/-- Whether a connection reports itself closed. -/
def reportsClosed (m : Mock) (conn : Nat) : Bool :=
  match (ask conn .isClosed m).1.outcome with
  | .ok closed => closed
  | .error _ => false

variable {m₀ m m' : Mock} {past : List Event} {conn : Nat} {k : Mock.Connection}

theorem reportsClosed_eq (hk : m.get? conn = some k) : m.reportsClosed conn = k.closed := by
  rw [reportsClosed, ask_outcome, hk]
  rfl

/-! ## The entry of a connection -/

/-- No connection that is closed is opened again. -/
theorem Connection.closed_of_tell {failing : List String} {command : Command}
    {after : Mock.Connection} (h : k.tell failing command = .ok after) (hclosed : k.closed = true) :
    after.closed = true := by
  obtain ⟨hdone, hopen⟩ := carryOut_of_tell h
  have hclose : command = .close := by
    by_contra hne
    exact nomatch hclosed.symm.trans (hopen hne)
  subst hclose
  cases hdone
  rfl

/-- No other entry has the name of a connection. -/
theorem notMem_names {before after : List (Nat × Mock.Connection)}
    (hnodup : ((before ++ (conn, k) :: after).map (·.1)).Nodup) :
    conn ∉ before.map (·.1) ∧ conn ∉ after.map (·.1) := by
  rw [List.map_append, List.map_cons, List.nodup_middle, List.nodup_cons, List.mem_append,
    not_or] at hnodup
  exact hnodup.1

/-- To put a connection in the place of another one changes its entry only. -/
theorem exists_put (hnodup : (m.connections.map (·.1)).Nodup) (hk : m.get? conn = some k) :
    ∃ before after, m.connections = before ++ (conn, k) :: after ∧
      ∀ k', (m.put conn k').connections = before ++ (conn, k') :: after := by
  obtain ⟨before, after, hsplit, -⟩ := List.lookup_eq_some_iff.1 hk
  refine ⟨before, after, hsplit, fun k' => ?_⟩
  rw [hsplit] at hnodup
  obtain ⟨hbefore, hafter⟩ := notMem_names hnodup
  have hother : ∀ l : List (Nat × Mock.Connection), conn ∉ l.map (·.1) →
      l.map (fun e => if e.1 = conn then (conn, k') else e) = l := by
    intro l hl
    refine (List.map_congr_left fun e he => if_neg ?_).trans (List.map_id _)
    rintro rfl
    exact hl (List.mem_map_of_mem he)
  rw [put, hsplit]
  show List.map _ _ = _
  rw [List.map_append, List.map_cons, hother _ hbefore, hother _ hafter, if_pos rfl]

/-- Every entry is found under its name. -/
theorem get?_of_mem (hnodup : (m.connections.map (·.1)).Nodup) (h : (conn, k) ∈ m.connections) :
    m.get? conn = some k := by
  obtain ⟨before, after, hsplit⟩ := List.append_of_mem h
  rw [hsplit] at hnodup
  refine List.lookup_eq_some_iff.2 ⟨before, after, hsplit, fun e he => ?_⟩
  rw [bne_iff_ne]
  rintro rfl
  exact (notMem_names hnodup).1 (List.mem_map.2 ⟨e, he, rfl⟩)

/-! ## The invariant -/

/-- How many connections are closed. -/
def closedNow (m : Mock) : Nat := m.connections.countP (·.2.closed)

/-- The connections and the counts of a backend, after what has happened since `m₀`. -/
structure Books (m₀ : Mock) (past : List Event) (m : Mock) : Prop where
  /-- There is a connection for each attempt to connect that succeeded. -/
  names : m.connections.map (·.1) = (opens past).reverse
  nodup : (opens past).Nodup
  opened : m.opened = (opens past).length
  closed : m.closed + stillborn m₀ past = m.closedNow
  bornClosed : m.bornClosed = bornClosedAfter m₀ past

namespace Books

theorem nodup_names (h : Books m₀ past m) : (m.connections.map (·.1)).Nodup := by
  rw [h.names]
  exact List.nodup_reverse.2 h.nodup

/-- An event that opens no connection and leaves the backend as it is. -/
theorem idle (h : Books m₀ past m) {conn : Nat} {deed : Deed}
    (hdeed : (Event.call conn deed).opened? = none) : Books m₀ (.call conn deed :: past) m where
  names := by rw [opens, List.filterMap_cons_none hdeed]; exact h.names
  nodup := by rw [opens, List.filterMap_cons_none hdeed]; exact h.nodup
  opened := by rw [opens, List.filterMap_cons_none hdeed]; exact h.opened
  closed := by rw [stillborn, hdeed]; exact h.closed
  bornClosed := h.bornClosed

theorem connect (h : Books m₀ past m) (hnew : m.get? conn = none) (target : Target) :
    Books m₀ (.call conn (.connect target (Mock.connect conn target m).1.outcome) :: past)
      (Mock.connect conn target m).2 := by
  by_cases hrefuse : m.refuse = true
  · unfold Mock.connect
    rw [if_pos hrefuse]
    exact h.idle rfl
  · unfold Mock.connect
    rw [if_neg hrefuse]
    have hname : conn ∉ opens past := by
      intro hmem
      rw [← List.mem_reverse, ← h.names, List.mem_map] at hmem
      obtain ⟨⟨c, k⟩, hmem, rfl⟩ := hmem
      exact nomatch hnew.symm.trans (get?_of_mem h.nodup_names hmem)
    refine ⟨?_, List.nodup_cons.2 ⟨hname, h.nodup⟩, congrArg (· + 1) h.opened, ?_, h.bornClosed⟩
    · show (m.connections ++ [(conn, m.fresh target)]).map (·.1) = (conn :: opens past).reverse
      rw [List.map_append, h.names, List.reverse_cons]
      rfl
    · show m.closed + (stillborn m₀ past + if bornClosedAfter m₀ past = true then 1 else 0) =
        (m.connections ++ [(conn, m.fresh target)]).countP (·.2.closed)
      rw [← Nat.add_assoc, h.closed, ← h.bornClosed, closedNow, List.countP_append,
        List.countP_singleton]
      rfl

/-- One connection is replaced by another, and counted if it was closed by that. -/
theorem put (h : Books m₀ past m) (hk : m.get? conn = some k) (after : Mock.Connection)
    (hclosed : k.closed = true → after.closed = true) :
    Books m₀ past { m.put conn after with
      closed := m.closed + if after.closed && !k.closed then 1 else 0 } := by
  obtain ⟨front, back, hsplit, hput⟩ := exists_put h.nodup_names hk
  refine ⟨?_, h.nodup, h.opened, ?_, h.bornClosed⟩
  · show (m.put conn after).connections.map (·.1) = _
    rw [hput, ← h.names, hsplit]
    simp
  · show m.closed + _ + stillborn m₀ past = (m.put conn after).connections.countP (·.2.closed)
    have hbefore := h.closed
    rw [closedNow, hsplit] at hbefore
    rw [hput]
    simp only [List.countP_append, List.countP_cons] at hbefore ⊢
    cases hold : k.closed <;> cases hnow : after.closed <;> simp [hold, hnow] at hbefore hclosed ⊢
    all_goals omega

theorem tell (h : Books m₀ past m) (conn : Nat) (command : Command) :
    Books m₀ (.call conn (.tell command (Mock.tell conn command m).1.outcome) :: past)
      (Mock.tell conn command m).2 := by
  refine Books.idle ?_ rfl
  unfold Mock.tell
  split
  · exact h
  · next k hk =>
    split
    · exact h
    · next after htell =>
      have hput := h.put hk after (Connection.closed_of_tell htell)
      split
      · next hnow =>
        rw [if_pos hnow] at hput
        exact hput
      · next hnow =>
        rw [if_neg hnow] at hput
        exact hput

theorem obey (h : Books m₀ past m) {order : Order} {reply : OrderReply}
    (hobey : m.obey order = some (reply, m')) : Books m₀ (.order order :: past) m' := by
  cases order with
  | refuse | failStatement | counts =>
    cases hobey
    exact ⟨h.names, h.nodup, h.opened, h.closed, h.bornClosed⟩
  | bornClosed on =>
    cases hobey
    exact ⟨h.names, h.nodup, h.opened, h.closed, rfl⟩
  | severAll =>
    cases hobey
    refine ⟨?_, h.nodup, h.opened, h.closed.trans ?_, h.bornClosed⟩
    · rw [List.map_map]
      exact h.names
    · show _ = (m.connections.map _).countP _
      rw [List.countP_map]
      rfl
  | sever conn =>
    obtain ⟨k, hk, heq⟩ := Option.map_eq_some_iff.1 hobey
    cases heq
    have hput := h.put hk { k with severed := true } id
    rw [Bool.and_not_self, if_neg Bool.false_ne_true] at hput
    exact ⟨hput.names, hput.nodup, hput.opened, hput.closed, hput.bornClosed⟩

/-- Those that are not closed are those that do not report themselves closed. -/
theorem countP_reportsClosed (h : Books m₀ past m) :
    (opens past).countP (fun conn => !m.reportsClosed conn) + m.closedNow = m.opened := by
  have hreports : (opens past).countP (fun conn => !m.reportsClosed conn) =
      m.connections.countP (!·.2.closed) := by
    rw [← List.countP_reverse, ← h.names, List.countP_map]
    refine List.countP_congr fun e he => ?_
    rw [Function.comp, reportsClosed_eq (get?_of_mem h.nodup_names he)]
  have hlength : m.opened = m.connections.length := by
    rw [h.opened, ← List.length_reverse, ← h.names, List.length_map]
  rw [hreports, hlength, Nat.add_comm, closedNow,
    List.length_eq_countP_add_countP fun e : Nat × Mock.Connection => e.2.closed]
  simp

end Books

theorem Runs.books (h₀ : m₀.Unused) (h : Runs m₀ past m) : Books m₀ past m := by
  induction h with
  | start =>
    refine ⟨?_, List.nodup_nil, h₀.opened, ?_, rfl⟩
    · rw [h₀.connections]
      rfl
    · rw [closedNow, h₀.connections, h₀.closed]
      rfl
  | connect _ conn hnew target ih => exact ih.connect hnew target
  | ask _ conn question ih =>
    rw [ask_backend]
    exact ih.idle rfl
  | tell _ conn command ih => exact ih.tell conn command
  | obey _ order hobey ih => exact ih.obey hobey

/-! ## The count of open connections -/

/-- **The count of open connections.** A backend counts a connection as opened for each attempt to
connect that succeeded, each of them once. It counts as open those that do not report themselves
closed, and also those that were closed from the start. So the count is right exactly if there are
none of them. -/
theorem openNow_counts (h₀ : m₀.Unused) (h : Runs m₀ past m) :
    m.opened = (opens past).length ∧ (opens past).Nodup ∧
      m.openNow = (opens past).countP (fun conn => !m.reportsClosed conn) + stillborn m₀ past ∧
      (m.openNow = (opens past).countP (fun conn => !m.reportsClosed conn) ↔
        stillborn m₀ past = 0) := by
  have hbooks := h.books h₀
  have hclosed := hbooks.closed
  have hsum := hbooks.countP_reportsClosed
  have hcount : m.openNow =
      (opens past).countP (fun conn => !m.reportsClosed conn) + stillborn m₀ past := by
    rw [openNow]
    omega
  exact ⟨hbooks.opened, hbooks.nodup, hcount, by omega⟩

/-- One connection is closed from the start, another one is closed twice, and one stays open; an
attempt to connect is refused in between, and all links are cut. -/
theorem openNow_counts_mixed :
    ∃ past m, Unused {} ∧ Runs {} past m ∧ opens past = [3, 2, 1] ∧ m.opened = 3 ∧ m.openNow = 2 ∧
      (opens past).countP (fun conn => !m.reportsClosed conn) = 1 ∧ stillborn {} past = 1 := by
  have hunused : Unused {} := ⟨rfl, rfl, rfl⟩
  have hstart : Runs {} [] {} := .start
  have hopened := (((hstart.connect 1 rfl target).obey (.bornClosed true) rfl).connect 2 rfl
    target).obey (.bornClosed false) rfl
  have hrefused := ((hopened.obey (.refuse true) rfl).connect 3 rfl target).obey (.refuse false) rfl
  have hrun := ((((hrefused.connect 3 rfl target).obey .severAll rfl).tell 3 .close).tell 3
    .close).tell 2 .close
  obtain ⟨hcount, -, hopen, -⟩ := openNow_counts hunused hrun
  exact ⟨_, _, hunused, hrun, rfl, hcount, hopen, rfl, rfl⟩

/-- A run that opens one connection, which is closed from the start. -/
def stillbornPast : List Event := [.call 1 (.connect target (.ok ()))]

/-- The backend after it. -/
def oneStillborn : Mock := (Mock.connect 1 target { bornClosed := true }).2

/-- **A connection that is closed from the start counts as open.** It reports itself closed, and to
close it does not help. -/
theorem stillborn_counted_open :
    Unused { bornClosed := true } ∧ Runs { bornClosed := true } stillbornPast oneStillborn ∧
      oneStillborn.reportsClosed 1 = true ∧
      (opens stillbornPast).countP (fun conn => !oneStillborn.reportsClosed conn) = 0 ∧
      oneStillborn.openNow = 1 ∧ (Mock.tell 1 .close oneStillborn).2.openNow = 1 :=
  ⟨⟨rfl, rfl, rfl⟩, Runs.start.connect 1 rfl target, rfl, rfl, rfl, rfl⟩

end ConnPool.Mock
