import ConnPool.Proofs.Properties.Assigning
import ConnPool.Proofs.Properties.Parts
import ConnPool.Proofs.Text
import Mathlib.Data.List.Forall2

/-!
# Property texts that are read back

**Theorem (`read_written`).** Write a source as a property text: a part `key=QvalueQ` for each
setting that it has, with a quote `Q` that does not occur in the value, joined with semicolons in
any order. Reading the text gives the source back and passes over no key.

A part is cut out whole (`isPart_writtenPart`), trimming and lowercase leave its key alone
(`PlainKey`), taking the quotes off leaves the value (`read_writtenPart`), and each value is read
back from its own text (`Assignment.ofKey_text`). What is left is that the order of the parts does
not matter, which is `applyAll_perm`.
-/

namespace ConnPool

/-- The documented name of an isolation level. -/
def Isolation.documented : Isolation → String
  | none => "none"
  | readUncommitted => "read_uncommitted"
  | readCommitted => "read_committed"
  | repeatableRead => "repeatable_read"
  | serializable => "serializable"
  | snapshot => "snapshot"

namespace Properties

/-! ## Keys -/

/-- A key that reading takes as it stands: cutting, trimming and lowercase change nothing in it. -/
structure PlainKey (key : List Char) : Prop where
  cut : ';' ∉ key
  equals : '=' ∉ key
  first : ∀ c ∈ key.head?, Text.isBlank c = false
  last : ∀ c ∈ key.getLast?, Text.isBlank c = false
  lower : Text.lower key = key

/-- The characters that the fixed keys and the mark of driver properties are made of. -/
def keyLetters : List Char := "abcdefghijklmnopqrstuvwxyz_.".toList

/-- None of these letters is a blank, and each is in lowercase. -/
theorem keyLetters_plain {c : Char} (hc : c ∈ keyLetters) :
    Text.isBlank c = false ∧ Text.IsLower c := by
  have hall : keyLetters.all (fun c => !Text.isBlank c && decide (Text.IsLower c)) = true := by
    decide
  simpa using List.all_eq_true.1 hall c hc

theorem plainKey_of_keyLetters {key : List Char} (h : key.all keyLetters.contains = true) :
    PlainKey key := by
  have hmem : ∀ c ∈ key, c ∈ keyLetters := fun c hc =>
    List.contains_iff_mem.1 (List.all_eq_true.1 h c hc)
  exact {
    cut := fun hc => absurd (hmem _ hc) (by decide)
    equals := fun hc => absurd (hmem _ hc) (by decide)
    first := fun c hc => (keyLetters_plain (hmem c (List.mem_of_mem_head? hc))).1
    last := fun c hc => (keyLetters_plain (hmem c (List.mem_of_getLast? hc))).1
    lower := Text.lower_eq_self_iff.2 fun c hc => (keyLetters_plain (hmem c hc)).2 }

/-- A name of a driver property that its key can carry: in lowercase, without a blank at its end,
an equals sign or a semicolon. -/
structure PlainName (name : String) : Prop where
  cut : ';' ∉ name.toList
  equals : '=' ∉ name.toList
  last : ∀ c ∈ name.toList.getLast?, Text.isBlank c = false
  lower : Text.lowered name = name

theorem PlainName.plainKey {name : String} (h : PlainName name) :
    PlainKey (driverMark ++ name).toList := by
  have hmark : PlainKey driverMark.toList := plainKey_of_keyLetters (by decide)
  have hlower : Text.lower name.toList = name.toList := by
    rw [← String.toList_ofList (l := Text.lower name.toList)]
    exact congrArg String.toList h.lower
  rw [String.toList_append]
  exact {
    cut := fun hc => (List.mem_append.1 hc).elim hmark.cut h.cut
    equals := fun hc => (List.mem_append.1 hc).elim hmark.equals h.equals
    first := hmark.first
    last := fun c hc => by
      rw [List.getLast?_append, Option.mem_def, Option.or_eq_some_iff] at hc
      rcases hc with hc | ⟨-, hc⟩
      · exact h.last c hc
      · exact hmark.last c hc
    lower := Text.lower_append_eq_self hmark.lower hlower }

/-- A part with a plain key and a quoted value is read as that key and that value. -/
theorem read_writtenPart {key value : List Char} (hkey : PlainKey key) {q : Char}
    (hq : isQuote q = true) :
    Assignment.read (writtenPart key q value) =
      (Assignment.ofKey (String.ofList key) (String.ofList value)).map some := by
  have hblank := isBlank_of_isQuote hq
  have htrim : Text.trim (writtenPart key q value) = writtenPart key q value := by
    refine Text.trim_eq_self (fun c hc => ?_) fun c hc => ?_
    · cases key with
      | nil =>
        obtain rfl : '=' = c := by simpa [writtenPart] using hc
        decide
      | cons a rest => exact hkey.first c hc
    · obtain rfl : q = c := by
        simpa [writtenPart, List.getLast?_append, List.getLast?_cons] using hc
      exact hblank
  have hvalue : Text.trim (q :: (value ++ [q])) = q :: (value ++ [q]) := by
    refine Text.trim_eq_self (fun c hc => ?_) fun c hc => ?_
    · obtain rfl : q = c := by simpa using hc
      exact hblank
    · obtain rfl : q = c := by simpa [List.getLast?_cons] using hc
      exact hblank
  have hsome : (writtenPart key q value).isEmpty = false := by simp [writtenPart]
  have hcut : cutAtEquals (writtenPart key q value) = some (key, q :: (value ++ [q])) :=
    cutAtEquals_append hkey.equals _
  unfold Assignment.read
  simp only [htrim, hsome, hcut, Text.trim_eq_self hkey.first hkey.last, hkey.lower, hvalue,
    stripQuotes_quoted hq, Bool.false_eq_true, if_false]

/-! ## Values -/

/-- A string that can stand in quotes of one kind or the other. -/
def Quotable (v : String) : Prop := ¬('"' ∈ v.toList ∧ '\'' ∈ v.toList)

namespace Assignment

/-- The keys under which an assignment is known. -/
def keys : Assignment → List String
  | url _ => ["url"]
  | username _ => ["username", "user"]
  | password _ => ["password"]
  | autoCommit _ => ["auto_commit", "autocommit"]
  | networkTimeout _ => ["network_timeout_ms"]
  | isolation _ => ["isolation", "default_isolation_level"]
  | driverProperty name _ => [driverMark ++ name]
  | maxActive _ => ["max_active"]
  | maxIdle _ => ["max_idle"]
  | checkoutTimeout _ => ["checkout_timeout_ms"]
  | waitTimeout _ => ["wait_timeout_ms"]
  | badTolerance _ => ["bad_connection_tolerance"]
  | pingEnabled _ => ["ping_enabled"]
  | pingQuery _ => ["ping_query"]
  | pingThreshold _ => ["ping_threshold_ms"]
  | indefiniteWait _ => ["indefinite_wait"]
  | unknown _ => []

/-- The text of the value: numbers in decimal, spans in milliseconds, truth values and isolation
levels by name. -/
def text : Assignment → String
  | url v | username v | password v | driverProperty _ v | pingQuery v => v
  | autoCommit b | pingEnabled b | indefiniteWait b => Text.truth b
  | networkTimeout d | checkoutTimeout d | waitTimeout d | pingThreshold d => toString d.toMillis
  | isolation level => level.documented
  | maxActive n | maxIdle n | badTolerance n => toString n
  | unknown _ => ""

/-- Whether a text can carry the value: strings without one of the two quotes, counts of 64 bits,
spans of whole milliseconds, and names of driver properties as `PlainName` asks for. -/
def Fits : Assignment → Prop
  | url v | username v | password v | pingQuery v => Quotable v
  | driverProperty name v => PlainName name ∧ Quotable v
  | networkTimeout d | checkoutTimeout d | waitTimeout d | pingThreshold d =>
    ∃ k ≤ maxCount, d = Span.ofMillis k
  | maxActive n | maxIdle n | badTolerance n => n ≤ maxCount
  | autoCommit _ | pingEnabled _ | indefiniteWait _ | isolation _ => True
  | unknown _ => False

theorem plainKey_of_mem_keys {a : Assignment} (ha : a.Fits) {key : String} (hkey : key ∈ a.keys) :
    PlainKey key.toList := by
  by_cases hdriver : ∃ n v, a = driverProperty n v
  · obtain ⟨n, v, rfl⟩ := hdriver
    obtain rfl : key = driverMark ++ n := by simpa [keys] using hkey
    exact PlainName.plainKey ha.1
  · -- every other key is one of the fixed ones
    have hfixed : a.keys.all (fun key => key.toList.all keyLetters.contains) = true := by
      cases a with
      | driverProperty n v => exact absurd ⟨n, v, rfl⟩ hdriver
      | _ => rfl
    exact plainKey_of_keyLetters (List.all_eq_true.1 hfixed key hkey)

theorem map_valueOf {α : Type} {read : String → Option α} {value : String} {a : α}
    (h : read value = some a) (key : String) (assign : α → Assignment) :
    (valueOf read key value).map assign = .ok (assign a) := by
  unfold valueOf
  rw [h]
  rfl

theorem truth?_truth (b : Bool) : truth? (Text.truth b) = some b := by
  cases b <;> decide

theorem count?_toString {n : Nat} (h : n ≤ maxCount) : count? (toString n) = some n :=
  Text.readCount_toString h

theorem millis?_toMillis {d : Span} (h : ∃ k ≤ maxCount, d = Span.ofMillis k) :
    millis? (toString d.toMillis) = some d := by
  obtain ⟨k, hk, rfl⟩ := h
  have hmillis : (Span.ofMillis k).toMillis = k := by
    unfold Span.toMillis Span.ofMillis Span.milli
    rw [Nat.mul_div_cancel k (by decide)]
    exact Nat.min_eq_left hk
  unfold millis?
  rw [hmillis, count?_toString hk]
  rfl

theorem driverName?_append (name : String) : driverName? (driverMark ++ name) = some name := by
  unfold driverName?
  rw [String.toList_append, List.isPrefixOf?_eq_some_iff_append_eq.2 rfl]
  simp

/-- The value of an assignment is read back from its text, under each of its keys. -/
theorem ofKey_text {a : Assignment} (ha : a.Fits) {key : String} (hkey : key ∈ a.keys) :
    ofKey key a.text = .ok a := by
  cases a with
  | driverProperty n v =>
    obtain rfl : key = driverMark ++ n := List.mem_singleton.1 hkey
    unfold ofKey
    rw [driverName?_append]
    rfl
  | url v | password v | pingQuery v =>
    obtain rfl := List.mem_singleton.1 hkey
    rfl
  | username v =>
    obtain rfl | rfl := List.mem_pair.1 hkey <;> rfl
  | isolation level =>
    obtain rfl | rfl := List.mem_pair.1 hkey <;> cases level <;> rfl
  | autoCommit b =>
    obtain rfl | rfl := List.mem_pair.1 hkey <;> exact map_valueOf (truth?_truth b) _ _
  | pingEnabled b | indefiniteWait b =>
    obtain rfl := List.mem_singleton.1 hkey
    exact map_valueOf (truth?_truth b) _ _
  | networkTimeout d | checkoutTimeout d | waitTimeout d | pingThreshold d =>
    obtain rfl := List.mem_singleton.1 hkey
    exact map_valueOf (millis?_toMillis ha) _ _
  | maxActive n | maxIdle n | badTolerance n =>
    obtain rfl := List.mem_singleton.1 hkey
    exact map_valueOf (count?_toString ha) _ _
  | unknown key => exact ha.elim

theorem exists_quote {a : Assignment} (ha : a.Fits) :
    ∃ q, isQuote q = true ∧ q ∉ a.text.toList := by
  have hquotable : Quotable a.text → ∃ q, isQuote q = true ∧ q ∉ a.text.toList := fun h => by
    by_cases hdouble : '"' ∈ a.text.toList
    · exact ⟨'\'', rfl, fun hsingle => h ⟨hdouble, hsingle⟩⟩
    · exact ⟨'"', rfl, hdouble⟩
  have hdigits : ∀ n : Nat, Quotable (toString n) := fun n h =>
    absurd (Text.isDigit_of_mem_toString h.1) (by decide)
  refine hquotable ?_
  cases a with
  | url v | username v | password v | pingQuery v => exact ha
  | driverProperty name v => exact ha.2
  | networkTimeout d | checkoutTimeout d | waitTimeout d | pingThreshold d => exact hdigits _
  | maxActive n | maxIdle n | badTolerance n => exact hdigits _
  | autoCommit b | pingEnabled b | indefiniteWait b => cases b <;> unfold Quotable <;> decide
  | isolation level => cases level <;> unfold Quotable <;> decide
  | unknown key => exact ha.elim

/-! ## Written sources -/

/-- A part that writes an assignment: one of its keys, an equals sign, and the text of its value in
quotes of a kind that does not occur in it. -/
def WrittenAs (a : Assignment) (part : String) : Prop :=
  ∃ key ∈ a.keys, ∃ q, isQuote q = true ∧ q ∉ a.text.toList ∧
    part = key ++ "=" ++ String.singleton q ++ a.text ++ String.singleton q

theorem WrittenAs.toList_eq {a : Assignment} {part : String} (h : a.WrittenAs part) :
    ∃ key ∈ a.keys, ∃ q, isQuote q = true ∧ q ∉ a.text.toList ∧
      part.toList = writtenPart key.toList q a.text.toList := by
  obtain ⟨key, hkey, q, hq, hnot, rfl⟩ := h
  refine ⟨key, hkey, q, hq, hnot, ?_⟩
  simp [writtenPart]

theorem WrittenAs.isPart {a : Assignment} {part : String} (h : a.WrittenAs part) (ha : a.Fits) :
    IsPart part.toList := by
  obtain ⟨key, hkey, q, hq, hnot, hpart⟩ := h.toList_eq
  have hplain := plainKey_of_mem_keys ha hkey
  rw [hpart]
  exact isPart_writtenPart hplain.cut hplain.equals hq hnot

theorem WrittenAs.read {a : Assignment} {part : String} (h : a.WrittenAs part) (ha : a.Fits) :
    Assignment.read part.toList = .ok (some a) := by
  obtain ⟨key, hkey, q, hq, -, hpart⟩ := h.toList_eq
  rw [hpart, read_writtenPart (plainKey_of_mem_keys ha hkey) hq, String.ofList_toList,
    String.ofList_toList, ofKey_text ha hkey]
  rfl

theorem exists_writtenAs {a : Assignment} (ha : a.Fits) : ∃ part, a.WrittenAs part := by
  obtain ⟨q, hq, hnot⟩ := exists_quote ha
  have hkeys : a.keys ≠ [] := by
    cases a with
    | unknown key => exact ha.elim
    | _ => simp [keys]
  obtain ⟨key, hkey⟩ := List.exists_mem_of_ne_nil _ hkeys
  exact ⟨_, key, hkey, q, hq, hnot, rfl⟩

end Assignment

/-- A property text that writes a source: its assignments in some order, each as a part, joined
with semicolons. -/
def Source.WrittenAs (s : Source) (text : String) : Prop :=
  ∃ order parts, order.Perm s.assignments ∧ List.Forall₂ Assignment.WrittenAs order parts ∧
    text = ";".intercalate parts

/-- A source that reading accepts and a text can carry. -/
structure Source.Writable (s : Source) : Prop where
  url : s.target.url ≠ ""
  valid : s.settings.problem? = none
  fits : ∀ a ∈ s.assignments, a.Fits

/-- Parts that write assignments are carried out as those assignments, and no key among them is
passed over. -/
theorem carryOut_written {as : List Assignment} {ps : List (List Char)}
    (h : List.Forall₂ (fun a p => Assignment.read p = .ok (some a)) as ps) (s : Source) :
    carryOut s ps = .ok (applyAll s as) := by
  induction h generalizing s with
  | nil => rfl
  | cons hread _ ih =>
    rw [carryOut, hread]
    exact ih _

theorem unknownKeys_written {as : List Assignment} {ps : List (List Char)}
    (h : List.Forall₂ (fun a p => Assignment.read p = .ok (some a)) as ps)
    (hknown : ∀ a ∈ as, a.Fits) : unknownKeys ps = [] := by
  induction h with
  | nil => rfl
  | @cons a _ _ _ hread _ ih =>
    rw [unknownKeys, hread]
    have hrest := ih fun b hb => hknown b (List.mem_cons_of_mem _ hb)
    cases a with
    | unknown key => exact (hknown _ List.mem_cons_self).elim
    | _ => exact hrest

theorem Source.exists_writtenAs {s : Source} (hs : s.Writable) : ∃ text, s.WrittenAs text := by
  have hparts : ∃ parts, List.Forall₂ Assignment.WrittenAs s.assignments parts := by
    have hfits := hs.fits
    generalize s.assignments = as at hfits
    induction as with
    | nil => exact ⟨[], .nil⟩
    | cons a rest ih =>
      obtain ⟨part, hpart⟩ := Assignment.exists_writtenAs (hfits a List.mem_cons_self)
      obtain ⟨parts, hparts⟩ := ih fun b hb => hfits b (List.mem_cons_of_mem _ hb)
      exact ⟨part :: parts, .cons hpart hparts⟩
  obtain ⟨parts, hparts⟩ := hparts
  exact ⟨_, s.assignments, parts, .refl _, hparts, rfl⟩

/-- **Property texts round-trip.** Every source that a text can carry has a text that writes it,
and every such text, in whatever order and with whichever quotes it writes the settings, is read as
that source. -/
theorem read_written {s : Source} (hs : s.Writable) :
    (∃ text, s.WrittenAs text) ∧ ∀ text, s.WrittenAs text → read text = ⟨[], .ok s⟩ := by
  refine ⟨s.exists_writtenAs hs, ?_⟩
  rintro _ ⟨order, ps, hperm, hps, rfl⟩
  have hfits : ∀ a ∈ order, a.Fits := fun a ha => hs.fits a (hperm.mem_iff.1 ha)
  have hwritten : List.Forall₂ (fun a p => a.Fits ∧ a.WrittenAs p) order ps :=
    (List.forall₂_and_left _ _).2 ⟨hfits, hps⟩
  have hread : List.Forall₂ (fun a p => Assignment.read p = .ok (some a)) order
      (ps.map String.toList) :=
    List.forall₂_map_right_iff.2 (hwritten.imp fun _ _ h => h.2.read h.1)
  have hpart : ∀ p ∈ ps, IsPart p.toList :=
    ((List.forall₂_and_left _ _).1 (hwritten.flip.imp fun _ _ h => ⟨h.2.isPart h.1, h⟩)).1
  have hsome : ps ≠ [] := by
    rintro rfl
    have hnil : order = [] := List.forall₂_nil_right_iff.1 hps
    exact absurd (hnil ▸ hperm).symm.eq_nil (by simp [Source.assignments])
  have hcut : parts (";".intercalate ps).toList = .ok (ps.map String.toList) := by
    rw [String.toList_intercalate]
    exact parts_intercalate (by simpa using hsome) (by simpa using hpart)
  have hresult : applyAll {} order = s :=
    (applyAll_perm hperm (fun a ha b hb => s.eq_of_setting_eq (hperm.mem_iff.1 ha)
      (hperm.mem_iff.1 hb)) _).trans s.applyAll_assignments
  have hcheck : check s = .ok s := by
    unfold check
    rw [if_neg hs.url, hs.valid]
  unfold read
  rw [hcut]
  simp only [unknownKeys_written hread hfits, carryOut_written hread, hresult]
  exact congrArg _ hcheck

/-- A source with a login, a driver property and a ping query, whose strings are full of
separators, quotes and blanks. -/
def thorny : Source where
  target := {
    url := "db; host = 'a b'"
    username := some "  "
    password := some ""
    driverProperties := DriverProperties.empty.insert "ssl mode" "re\"quire\""
    isolation := some .readCommitted }
  settings := { pingEnabled := true, pingQuery := " SELECT ';' = " }

/-- Its assignments back to front, each with the key and the quote that it is written with. -/
def thornyParts : List (Assignment × String × Char) := [
  (.indefiniteWait false, "indefinite_wait", '"'), (.pingThreshold 0, "ping_threshold_ms", '\''),
  (.pingQuery " SELECT ';' = ", "ping_query", '"'), (.pingEnabled true, "ping_enabled", '\''),
  (.badTolerance 3, "bad_connection_tolerance", '\''),
  (.waitTimeout (.ofMillis 20000), "wait_timeout_ms", '\''),
  (.checkoutTimeout (.ofMillis 20000), "checkout_timeout_ms", '"'),
  (.maxIdle 5, "max_idle", '\''), (.maxActive 10, "max_active", '\''),
  (.driverProperty "ssl mode" "re\"quire\"", "driver.ssl mode", '\''),
  (.isolation .readCommitted, "default_isolation_level", '\''), (.password "", "password", '\''),
  (.username "  ", "user", '\''), (.url "db; host = 'a b'", "url", '"')]

/-- The text that they make. -/
def thornyText : String :=
  "indefinite_wait=\"false\";ping_threshold_ms='0';ping_query=\" SELECT ';' = \";" ++
  "ping_enabled='true';bad_connection_tolerance='3';wait_timeout_ms='20000';" ++
  "checkout_timeout_ms=\"20000\";max_idle='5';max_active='10';" ++
  "driver.ssl mode='re\"quire\"';default_isolation_level='read_committed';password='';" ++
  "user='  ';url=\"db; host = 'a b'\""

theorem thorny_perm : (thornyParts.map (·.1)).Perm thorny.assignments := by decide

theorem thorny_writable : thorny.Writable where
  url := by decide
  valid := by decide
  fits := by
    have hlast : "ssl mode".toList.getLast? = some 'e' := by decide
    have hname : PlainName "ssl mode" :=
      ⟨by decide, by decide, fun c hc => Option.some.inj (hlast.symm.trans hc) ▸ rfl,
        by decide +kernel⟩
    have hquotable : ∀ v ∈ ["db; host = 'a b'", "  ", "", "re\"quire\"", " SELECT ';' = "],
        Quotable v := by
      unfold Quotable
      decide
    have hfits : ∀ a ∈ thornyParts.map (·.1), a.Fits := by
      simp only [thornyParts, List.map_cons, List.map_nil, List.forall_mem_cons]
      exact ⟨trivial, ⟨0, by decide, rfl⟩, hquotable _ (by simp), trivial,
        Nat.le_of_ble_eq_true rfl, ⟨20000, by decide, rfl⟩, ⟨20000, by decide, rfl⟩,
        Nat.le_of_ble_eq_true rfl, Nat.le_of_ble_eq_true rfl,
        ⟨hname, hquotable _ (by simp)⟩, trivial, hquotable _ (by simp), hquotable _ (by simp),
        hquotable _ (by simp), List.forall_mem_nil _⟩
    exact fun a ha => hfits a (thorny_perm.mem_iff.2 ha)

theorem thorny_writtenAs : thorny.WrittenAs thornyText := by
  have hpart : ∀ x ∈ thornyParts,
      x.2.1 ∈ x.1.keys ∧ isQuote x.2.2 = true ∧ x.2.2 ∉ x.1.text.toList := by decide
  refine ⟨_, thornyParts.map fun x => x.2.1 ++ "=" ++ String.singleton x.2.2 ++ x.1.text ++
    String.singleton x.2.2, thorny_perm, ?_, by decide +kernel⟩
  rw [List.forall₂_map_left_iff, List.forall₂_map_right_iff, List.forall₂_same]
  intro x hx
  obtain ⟨hkey, hq, hnot⟩ := hpart x hx
  exact ⟨_, hkey, _, hq, hnot, rfl⟩

/-- So it is read back. -/
theorem read_written_thorny :
    thorny.Writable ∧ thorny.WrittenAs thornyText ∧ read thornyText = ⟨[], .ok thorny⟩ :=
  ⟨thorny_writable, thorny_writtenAs, (read_written thorny_writable).2 _ thorny_writtenAs⟩

end Properties

end ConnPool
