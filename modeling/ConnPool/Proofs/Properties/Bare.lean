import ConnPool.Proofs.Properties.Sealed
import ConnPool.Proofs.Properties.Writing

/-!
# Values without quotes around them

A bare value is one that holds no semicolon and does not begin with a quote, blanks aside. The
quotes inside it are meant to be ordinary characters. They are not always: a quote opens wherever
the part so far ends in an equals sign, and that may be an equals sign of the value itself. `Closes`
tells when the quotes that open inside a value are closed in it too.

**Theorem (`read_bare`).** A text of keys and bare values is cut into the parts that it was joined
from exactly if every value closes the quotes that open in it. Then each setting that is a text has
the value that the last of the parts gives it, without the blanks around it.

Where a value leaves a quote open, the quote reaches into the parts behind it, and the text is
rejected or settings disappear in the value of another one (`bare_quotes_open`). No value does so in
which no quote stands behind an equals sign (`Closes.of_inert`).
-/

namespace ConnPool.Properties

/-! ## Quotes inside a value -/

/-- Every quote that opens in a text, behind `seen` with the last character first, closes in it. A
quote opens where the text in front of it ends in an equals sign, blanks aside, and is closed by the
next one of its kind; any other character stands for itself. -/
inductive Closes : List Char → List Char → Prop
  | nil {seen : List Char} : Closes seen []
  | plain {seen rest : List Char} {c : Char} (hplain : (isQuote c && opensAfter seen) = false)
      (hrest : Closes (c :: seen) rest) : Closes seen (c :: rest)
  | quoted {seen inner rest : List Char} {q : Char} (hopen : (isQuote q && opensAfter seen) = true)
      (hinner : q ∉ inner) (hrest : Closes (q :: (inner.reverse ++ q :: seen)) rest) :
      Closes seen (q :: (inner ++ q :: rest))

/-- Without separators a text keeps to itself if its quotes close. -/
theorem Closes.toSealed {seen value : List Char} (h : Closes seen value) (hcut : ';' ∉ value) :
    Sealed seen value := by
  induction h with
  | nil => exact .nil
  | plain hplain _ ih =>
    simp only [List.mem_cons, not_or] at hcut
    exact .plain (Ne.symm hcut.1) hplain (ih hcut.2)
  | quoted hopen hinner _ ih =>
    simp only [List.mem_cons, List.mem_append, not_or] at hcut
    exact .quoted hopen hinner (ih hcut.2.2.2)

/-- The quotes of a text that keeps to itself close. -/
theorem Sealed.closes {seen value : List Char} (h : Sealed seen value) : Closes seen value := by
  induction h with
  | nil => exact .nil
  | plain _ hplain _ ih => exact .plain hplain ih
  | quoted hopen hinner _ ih => exact .quoted hopen hinner ih

/-- Only what is seen in front of a quote matters. -/
theorem Closes.congr {seen seen' value : List Char} (h : Closes seen value)
    (hsame : ∀ before q after, value = before ++ q :: after → isQuote q = true →
      opensAfter (before.reverse ++ seen) = opensAfter (before.reverse ++ seen')) :
    Closes seen' value := by
  induction h generalizing seen' with
  | nil => exact .nil
  | @plain seen rest c hplain _ ih =>
    refine .plain ?_ (ih fun before q after hvalue hq => ?_)
    · by_cases hc : isQuote c = true
      · have hhere : opensAfter seen = opensAfter seen' := hsame [] c rest rfl hc
        rwa [← hhere]
      · rw [Bool.eq_false_iff.2 hc, Bool.false_and]
    · simpa using hsame (c :: before) q after (by rw [hvalue]; rfl) hq
  | @quoted seen inner rest q hopen hinner _ ih =>
    have hq : isQuote q = true := (Bool.and_eq_true_iff.1 hopen).1
    refine .quoted ?_ hinner (ih fun before q' after hvalue hq' => ?_)
    · have hhere : opensAfter seen = opensAfter seen' := hsame [] q _ rfl hq
      rwa [← hhere]
    · have hmore := hsame (q :: (inner ++ q :: before)) q' after (by rw [hvalue]; simp) hq'
      simpa using hmore

/-- As long as no quote stands behind an equals sign, blanks aside, none opens. -/
theorem Closes.of_inert {seen value : List Char}
    (h : ∀ before q after, value = before ++ q :: after → isQuote q = true →
      opensAfter (before.reverse ++ seen) = false) : Closes seen value := by
  induction value generalizing seen with
  | nil => exact .nil
  | cons c rest ih =>
    refine .plain ?_ (ih fun before q after hvalue hq => ?_)
    · by_cases hc : isQuote c = true
      · have hhere : opensAfter seen = false := h [] c rest rfl hc
        rw [hhere, Bool.and_false]
      · rw [Bool.eq_false_iff.2 hc, Bool.false_and]
    · simpa using h (c :: before) q after (by rw [hvalue]; rfl) hq

/-! ## Parts with bare values -/

/-- A key and a value as the part `key=value`, which is bare: the key holds neither a separator nor
an equals sign, and the value holds no separator and does not begin with a quote, blanks aside. -/
structure IsBare (part : String × String) : Prop where
  key_cut : ';' ∉ part.1.toList
  key_equals : '=' ∉ part.1.toList
  value_cut : ';' ∉ part.2.toList
  value_first : ∀ c ∈ (Text.trimStart part.2.toList).head?, isQuote c = false

theorem isBare_iff (part : String × String) :
    IsBare part ↔ (';' ∉ part.1.toList ∧ '=' ∉ part.1.toList) ∧ ';' ∉ part.2.toList ∧
      ((Text.trimStart part.2.toList).head?.all fun c => !isQuote c) = true := by
  simp only [Option.all_eq_true, Bool.not_eq_true']
  constructor
  · intro h
    exact ⟨⟨h.key_cut, h.key_equals⟩, h.value_cut, h.value_first⟩
  · rintro ⟨⟨hkey, hequals⟩, hvalue, hfirst⟩
    exact ⟨hkey, hequals, hvalue, hfirst⟩

instance (part : String × String) : Decidable (IsBare part) :=
  decidable_of_iff' _ (isBare_iff part)

/-- The text of a part. -/
def barePart (part : String × String) : String := part.1 ++ "=" ++ part.2

theorem toList_barePart (part : String × String) :
    (barePart part).toList = part.1.toList ++ '=' :: part.2.toList := by
  simp [barePart]

/-- Whether a quote opens is decided by the last character that is not blank. -/
theorem opensAfter_append {front : List Char} (h : ∃ c ∈ front, Text.isBlank c = false)
    (seen : List Char) : opensAfter (front ++ seen) = opensAfter front := by
  obtain ⟨c, hmem, hc⟩ := h
  have hne : front.dropWhile Text.isBlank ≠ [] := by
    intro hnil
    have hblank := List.dropWhile_eq_nil_iff.1 hnil c hmem
    rw [hc] at hblank
    exact nomatch hblank
  unfold opensAfter
  rw [List.dropWhile_append, if_neg (by simpa using hne), List.head?_append]
  cases hdrop : front.dropWhile Text.isBlank with
  | nil => exact absurd hdrop hne
  | cons a rest => rfl

namespace IsBare

variable {part : String × String}

/-- In front of a quote inside a bare value there is a character that is not blank. -/
theorem exists_of_quote (h : IsBare part) {before after : List Char} {q : Char}
    (hvalue : part.2.toList = before ++ q :: after) (hq : isQuote q = true) :
    ∃ c ∈ before.reverse, Text.isBlank c = false := by
  by_contra hall
  simp only [List.mem_reverse, not_exists, not_and, Bool.not_eq_false] at hall
  have hstart : Text.trimStart part.2.toList = q :: after := by
    rw [hvalue, Text.trimStart_append_cons (isBlank_of_isQuote hq)]
    unfold Text.trimStart
    rw [List.dropWhile_eq_nil_iff.2 hall, List.nil_append]
  have hfirst := h.value_first q (by rw [hstart]; rfl)
  rw [hq] at hfirst
  exact nomatch hfirst

/-- So it does not matter for the quotes in it what stands in front of the value. -/
theorem closes_congr (h : IsBare part) {seen seen' : List Char}
    (hclosed : Closes seen part.2.toList) : Closes seen' part.2.toList := by
  refine hclosed.congr fun before q after hvalue hq => ?_
  have hfront := h.exists_of_quote hvalue hq
  rw [opensAfter_append hfront, opensAfter_append hfront]

/-- A bare value makes a part if the quotes that open in it are closed in it. -/
theorem isPart_iff (h : IsBare part) :
    IsPart (barePart part).toList ↔ Closes [] part.2.toList := by
  have hkey : ∀ more, partsFrom [] none ((barePart part).toList ++ more) =
      partsFrom ('=' :: part.1.toList.reverse) none (part.2.toList ++ more) := by
    intro more
    rw [toList_barePart, List.append_assoc,
      partsFrom_key h.key_cut h.key_equals List.not_mem_nil, List.append_nil, List.cons_append,
      partsFrom, if_neg (by decide), show isQuote '=' = false from rfl, Bool.false_and,
      if_neg (by decide)]
  have hend : (barePart part).toList.reverse =
      part.2.toList.reverse ++ '=' :: part.1.toList.reverse := by
    rw [toList_barePart]
    simp
  constructor
  · intro hpart
    have hpasses : Passes ('=' :: part.1.toList.reverse) none part.2.toList := by
      intro more
      rw [← hkey, hpart, hend]
    exact h.closes_congr (passes_iff_sealed.1 hpasses).closes
  · intro hclosed more
    rw [hkey, ((h.closes_congr hclosed).toSealed h.value_cut).passes, hend]

/-- A bare value is read as it stands, without the blanks around it. -/
theorem read (h : IsBare part) :
    Assignment.read (barePart part).toList =
      (Assignment.ofKey (Text.lowered (Text.trimmed part.1)) (Text.trimmed part.2)).map some := by
  have htrim : Text.trim (barePart part).toList =
      Text.trimStart part.1.toList ++ '=' :: Text.trimEnd part.2.toList := by
    rw [toList_barePart, Text.trim_append_cons (by decide)]
  have hkey : '=' ∉ Text.trimStart part.1.toList := fun hmem =>
    h.key_equals (List.dropWhile_subset _ hmem)
  have hquotes : stripQuotes (Text.trim part.2.toList) = Text.trim part.2.toList := by
    cases hvalue : Text.trim part.2.toList with
    | nil => rfl
    | cons c rest =>
      have hfirst := h.value_first c (Text.head?_trim (by rw [hvalue]; rfl))
      rw [stripQuotes, hfirst, Bool.false_and, if_neg (by decide)]
  have hsome : (Text.trimStart part.1.toList ++ '=' :: Text.trimEnd part.2.toList).isEmpty =
      false := by simp
  unfold Assignment.read
  simp only [htrim, hsome, cutAtEquals_append hkey, Text.trim_trimStart, Text.trim_trimEnd, hquotes,
    Bool.false_eq_true, if_false, Text.lowered, Text.trimmed, String.toList_ofList]

end IsBare

/-! ## Settings that are texts -/

/-- Whether the value of a setting is a text. -/
def Setting.isText : Setting → Bool
  | .url | .username | .password | .driverProperty _ | .pingQuery => true
  | _ => false

/-- The text that a source has for a setting. -/
def Source.text? (s : Source) : Setting → Option String
  | .url => some s.target.url
  | .username => s.target.username
  | .password => s.target.password
  | .driverProperty name => s.target.driverProperties.get? name
  | .pingQuery => some s.settings.pingQuery
  | _ => none

/-- An assignment changes the text of its own setting and of no other one. -/
theorem Source.text?_apply (s : Source) (a : Assignment) {σ : Setting} (hσ : σ.isText = true) :
    (a.apply s).text? σ = if a.setting = some σ then some a.text else s.text? σ := by
  cases a with
  | driverProperty n v =>
    cases σ with
    | driverProperty name =>
      show (s.target.driverProperties.insert n v).get? name = _
      rw [DriverProperties.get?_insert]
      by_cases hname : name = n
      · subst hname
        simp only [Assignment.setting, Assignment.text, if_true]
      · have hne : ¬(Assignment.driverProperty n v).setting = some (.driverProperty name) := by
          intro h
          cases h
          exact hname rfl
        rw [if_neg hname, if_neg hne]
        rfl
    | _ => rfl
  | _ => cases σ <;> first | rfl | cases hσ

/-- The text of an assignment is the value that it was read from. -/
theorem Assignment.text_of_ofKey {key value : String} {a : Assignment} {σ : Setting}
    (h : ofKey key value = .ok a) (hset : a.setting = some σ) (hσ : σ.isText = true) :
    a.text = value := by
  -- the settings that are no texts are read from their values by `valueOf`
  have hother : ∀ {α : Type} {read : String → Option α} {assign : α → Assignment},
      (valueOf read key value).map assign = .ok a →
      (∀ v, ∃ τ : Setting, (assign v).setting = some τ ∧ τ.isText = false) → a.text = value := by
    intro α read assign hread hno
    obtain ⟨v, rfl⟩ := valueOf_map_eq_ok hread
    obtain ⟨τ, hτ, hfalse⟩ := hno v
    cases hτ.symm.trans hset
    exact nomatch hfalse.symm.trans hσ
  unfold ofKey at h
  split at h
  · cases h
    rfl
  · split at h
    case h_8 | h_9 =>
      split at h
      · cases h
        cases hset
        exact nomatch hσ
      · exact nomatch h
    all_goals
      first
      | cases h; rfl
      | exact hother h fun _ => ⟨_, rfl, rfl⟩
      | cases h; exact nomatch hset

/-- The value that the last part for a setting gives it, without the blanks around it. -/
def lastText? (σ : Setting) (pairs : List (String × String)) : Option String :=
  (pairs.reverse.find? fun part =>
    Setting.ofKey? (Text.lowered (Text.trimmed part.1)) == some σ).map fun part =>
      Text.trimmed part.2

theorem lastText?_cons (σ : Setting) (part : String × String) (pairs : List (String × String)) :
    lastText? σ (part :: pairs) = (lastText? σ pairs).or
      (if Setting.ofKey? (Text.lowered (Text.trimmed part.1)) = some σ
        then some (Text.trimmed part.2) else none) := by
  unfold lastText?
  rw [List.reverse_cons, List.find?_append, Option.map_or, List.find?_singleton]
  simp only [beq_iff_eq, apply_ite (Option.map _), Option.map_some, Option.map_none]

/-- Carried out, bare parts give each setting that is a text the last of its values. -/
theorem carryOut_bare {pairs : List (String × String)} (hbare : ∀ part ∈ pairs, IsBare part)
    (hread : ∀ part ∈ pairs, ∃ a,
      Assignment.ofKey (Text.lowered (Text.trimmed part.1)) (Text.trimmed part.2) = .ok a)
    (s : Source) :
    ∃ s', carryOut s (pairs.map fun part => (barePart part).toList) = .ok s' ∧
      ∀ σ : Setting, σ.isText = true → s'.text? σ = (lastText? σ pairs).or (s.text? σ) := by
  induction pairs generalizing s with
  | nil => exact ⟨s, rfl, fun _ _ => rfl⟩
  | cons part rest ih =>
    obtain ⟨hpart, hbare⟩ := List.forall_mem_cons.1 hbare
    obtain ⟨⟨a, ha⟩, hread⟩ := List.forall_mem_cons.1 hread
    have hone : Assignment.read (barePart part).toList = .ok (some a) := by
      rw [hpart.read, ha]
      rfl
    obtain ⟨s', hdone, htext⟩ := ih hbare hread (a.apply s)
    refine ⟨s', ?_, fun σ hσ => ?_⟩
    · rw [List.map_cons, carryOut_cons hone]
      exact hdone
    · rw [htext σ hσ, lastText?_cons, Option.or_assoc, s.text?_apply a hσ,
        Assignment.setting_of_ofKey ha]
      by_cases hset : Setting.ofKey? (Text.lowered (Text.trimmed part.1)) = some σ
      · have hvalue := Assignment.text_of_ofKey ha ((Assignment.setting_of_ofKey ha).trans hset) hσ
        rw [if_pos hset, if_pos hset, hvalue]
        rfl
      · rw [if_neg hset, if_neg hset]
        rfl

/-! ## Texts of bare values -/

/-- The text of parts with bare values. -/
def bareText (pairs : List (String × String)) : String := ";".intercalate (pairs.map barePart)

/-- **Texts of bare values.** A text of keys and bare values is cut into the parts that it was
joined from exactly if every value closes the quotes that open in it, as one does in which no quote
stands behind an equals sign. Then, if every value suits its key, what the text is read as is
checked to be fit for use, and has for each setting that is a text the last value for it, without
the blanks around it. -/
theorem read_bare {pairs : List (String × String)} (hne : pairs ≠ [])
    (hbare : ∀ part ∈ pairs, IsBare part) :
    (∀ part ∈ pairs, (∀ before q after, part.2.toList = before ++ q :: after →
      isQuote q = true → opensAfter before.reverse = false) → Closes [] part.2.toList) ∧
    (parts (bareText pairs).toList = .ok (pairs.map fun part => (barePart part).toList) ↔
      ∀ part ∈ pairs, Closes [] part.2.toList) ∧
    ((∀ part ∈ pairs, Closes [] part.2.toList) →
      (∀ part ∈ pairs, ∃ a,
        Assignment.ofKey (Text.lowered (Text.trimmed part.1)) (Text.trimmed part.2) = .ok a) →
      ∃ s, (read (bareText pairs)).outcome = check s ∧
        ∀ σ : Setting, σ.isText = true →
          s.text? σ = (lastText? σ pairs).or (({} : Source).text? σ)) := by
  have hjoin : (bareText pairs).toList =
      [';'].intercalate (pairs.map fun part => (barePart part).toList) := by
    rw [bareText, String.toList_intercalate, List.map_map]
    rfl
  have hcut : parts (bareText pairs).toList = .ok (pairs.map fun part => (barePart part).toList) ↔
      ∀ part ∈ pairs, Closes [] part.2.toList := by
    rw [parts_eq_ok_iff]
    constructor
    · rintro ⟨-, -, hparts⟩ part hmem
      exact (hbare part hmem).isPart_iff.1 (hparts _ (List.mem_map_of_mem hmem))
    · intro hclosed
      refine ⟨by simpa using hne, hjoin, fun p hp => ?_⟩
      obtain ⟨part, hmem, rfl⟩ := List.mem_map.1 hp
      exact (hbare part hmem).isPart_iff.2 (hclosed part hmem)
  refine ⟨fun part _ hinert => .of_inert (by simpa using hinert), hcut, fun hclosed hread => ?_⟩
  obtain ⟨s, hdone, htext⟩ := carryOut_bare hbare hread {}
  refine ⟨s, ?_, htext⟩
  unfold read
  rw [hcut.2 hclosed]
  dsimp only
  rw [hdone]
  rfl

/-- Values with quotes in them. One opens behind an equals sign, and its fellow closes it. -/
def quotedPairs : List (String × String) :=
  [(" User ", " o'neil "), ("url", "db?name='a b'&mode=x"), ("password", "it's"),
    ("max_active", "5"), ("Driver.Greeting", "say \"hi\""), ("PASSWORD", "\t a = b\" ")]

theorem read_bare_quoted :
    quotedPairs ≠ [] ∧ (∀ part ∈ quotedPairs, IsBare part) ∧
      (∀ part ∈ quotedPairs, Closes [] part.2.toList) ∧
      ∃ s, (read (bareText quotedPairs)).outcome = check s ∧
        s.text? .url = some "db?name='a b'&mode=x" ∧ s.text? .username = some "o'neil" ∧
        s.text? .password = some "a = b\"" ∧
        s.text? (.driverProperty "greeting") = some "say \"hi\"" ∧
        s.text? .pingQuery = ({} : Source).text? .pingQuery := by
  have hne : quotedPairs ≠ [] := List.cons_ne_nil _ _
  have hbare : ∀ part ∈ quotedPairs, IsBare part := by decide +kernel
  have hclosed : ∀ part ∈ quotedPairs, Closes [] part.2.toList :=
    (read_bare hne hbare).2.1.1 (by decide +kernel)
  have hread : ∀ part ∈ quotedPairs, ∃ a,
      Assignment.ofKey (Text.lowered (Text.trimmed part.1)) (Text.trimmed part.2) = .ok a := by
    simp only [quotedPairs, List.forall_mem_cons]
    exact ⟨⟨.username "o'neil", by decide +kernel⟩,
      ⟨.url "db?name='a b'&mode=x", by decide +kernel⟩, ⟨.password "it's", by decide +kernel⟩,
      ⟨.maxActive 5, by decide +kernel⟩,
      ⟨.driverProperty "greeting" "say \"hi\"", by decide +kernel⟩,
      ⟨.password "a = b\"", by decide +kernel⟩, List.forall_mem_nil _⟩
  obtain ⟨s, hs, htext⟩ := (read_bare hne hbare).2.2 hclosed hread
  refine ⟨hne, hbare, hclosed, s, hs, ?_, ?_, ?_, ?_, ?_⟩
  all_goals
    rw [htext _ rfl]
    decide +kernel

/-- Values with a quote behind an equals sign of their own, and another one in the next value. -/
def leakyPairs : List (String × String) :=
  [("url", "db"), ("password", "a='b"), ("user", "o'neil")]

/-- The same with no second quote. -/
def openPairs : List (String × String) := [("url", "db"), ("password", "a='b"), ("user", "o")]

/-- **Quotes inside a bare value are not always ordinary characters.** A quote opens behind an
equals sign in a value, too. Either it swallows the parts up to the next quote, and there is no
user, or it is never closed, and the text is rejected. -/
theorem bare_quotes_open :
    ((∀ part ∈ leakyPairs, IsBare part) ∧
      parts (bareText leakyPairs).toList =
        .ok (["url=db", "password=a='b;user=o'neil"].map String.toList) ∧
      (read (bareText leakyPairs)).outcome =
        .ok { target := { url := "db", password := some "a='b;user=o'neil" } } ∧
      lastText? .password leakyPairs = some "a='b" ∧
      lastText? .username leakyPairs = some "o'neil") ∧
    (∀ part ∈ openPairs, IsBare part) ∧
      (read (bareText openPairs)).outcome =
        .error (.unterminatedQuote "password=a='b;user=o") := by
  refine ⟨⟨?_, ?_, ?_, ?_, ?_⟩, ?_, ?_⟩
  all_goals decide +kernel

end ConnPool.Properties
