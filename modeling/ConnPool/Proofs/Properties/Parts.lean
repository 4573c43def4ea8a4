import ConnPool.Properties.Assignment
import Mathlib.Data.List.Basic

/-!
# Cutting a text that was put together from parts

`IsPart p` says that cutting runs over the characters of `p` without ending a part and leaves no
quote open. Such parts, joined with semicolons, are what the text is cut into again
(`parts_intercalate`), and no text is cut into anything else (`parts_eq_ok_iff`). A key and a value
in quotes make a part, whatever the value contains except the quote around it
(`isPart_writtenPart`): a quote opens only behind the equals sign, and from there to its fellow
every character is passed over.
-/

namespace ConnPool.Properties

/-! ## Parts -/

/-- Cutting passes over `p` whole. -/
def IsPart (p : List Char) : Prop :=
  ∀ rest, partsFrom [] none (p ++ rest) = partsFrom p.reverse none rest

/-- Behind a part and a separator the rest is cut by itself. -/
theorem IsPart.parts_append {p : List Char} (hp : IsPart p) (rest : List Char) :
    parts (p ++ ';' :: rest) = (parts rest).map (p :: ·) := by
  rw [parts, hp, partsFrom, if_pos rfl, List.reverse_reverse]
  rfl

theorem intercalate_cut (p : List Char) {ps : List (List Char)} (hne : ps ≠ []) :
    [';'].intercalate (p :: ps) = p ++ ';' :: [';'].intercalate ps := by
  rw [List.intercalate_cons_of_ne_nil hne, List.append_assoc, List.singleton_append]

/-- A text joined from parts is cut into them again. -/
theorem parts_intercalate {ps : List (List Char)} (hne : ps ≠ []) (h : ∀ p ∈ ps, IsPart p) :
    parts ([';'].intercalate ps) = .ok ps := by
  induction ps with
  | nil => exact absurd rfl hne
  | cons p rest ih =>
    have hp : IsPart p := h p (by simp)
    cases rest with
    | nil =>
      have hend := hp []
      rw [List.append_nil] at hend
      rw [List.intercalate_singleton, parts, hend, partsFrom, List.reverse_reverse]
    | cons p' rest =>
      have htail := ih (by simp) fun q hq => h q (List.mem_cons_of_mem _ hq)
      rw [intercalate_cut p (List.cons_ne_nil _ _), hp.parts_append, htail]
      rfl

/-- Cutting passes over `p` behind `seen`, where `quote` is open, and leaves no quote open. -/
def Passes (seen : List Char) (quote : Option Char) (p : List Char) : Prop :=
  ∀ rest, partsFrom seen quote (p ++ rest) = partsFrom (p.reverse ++ seen) none rest

theorem isPart_iff_passes {p : List Char} : IsPart p ↔ Passes [] none p := by
  unfold IsPart Passes
  simp only [List.append_nil]

/-- One more character in front, which ends no part. -/
theorem Passes.cons {c : Char} {seen p : List Char} {quote quote' : Option Char}
    (hstep : ∀ rest, partsFrom seen quote (c :: rest) = partsFrom (c :: seen) quote' rest)
    (hp : Passes (c :: seen) quote' p) : Passes seen quote (c :: p) := by
  intro rest
  rw [List.cons_append, hstep, hp]
  simp

/-- What is cut off first continues what was seen before, and the rest are parts of their own. -/
theorem partsFrom_ok {text seen : List Char} {quote : Option Char} {ps : List (List Char)}
    (h : partsFrom seen quote text = .ok ps) :
    ∃ p rest, ps = (seen.reverse ++ p) :: rest ∧ text = [';'].intercalate (p :: rest) ∧
      Passes seen quote p ∧ ∀ q ∈ rest, IsPart q := by
  induction text generalizing seen quote ps with
  | nil =>
    cases quote with
    | some q => exact nomatch h
    | none =>
      cases h
      exact ⟨[], [], by simp, rfl, fun _ => rfl, List.forall_mem_nil _⟩
  | cons c text ih =>
    -- wherever no part ends, the character belongs to what is cut off first
    have hgrow : ∀ quote', (∀ more, partsFrom seen quote (c :: more) =
        partsFrom (c :: seen) quote' more) → ∃ p rest, ps = (seen.reverse ++ p) :: rest ∧
          c :: text = [';'].intercalate (p :: rest) ∧ Passes seen quote p ∧
          ∀ q ∈ rest, IsPart q := by
      intro quote' hstep
      obtain ⟨p, rest, rfl, rfl, hp, hrest⟩ := ih ((hstep text).symm.trans h)
      refine ⟨c :: p, rest, by simp, ?_, hp.cons hstep, hrest⟩
      cases rest <;> rfl
    cases quote with
    | some q => exact hgrow _ fun more => rfl
    | none =>
      by_cases hcut : c = ';'
      · subst hcut
        rw [partsFrom, if_pos rfl] at h
        cases htail : partsFrom [] none text with
        | error left =>
          rw [htail] at h
          exact nomatch h
        | ok qs =>
          rw [htail] at h
          cases h
          obtain ⟨p, rest, rfl, rfl, hp, hrest⟩ := ih htail
          refine ⟨[], p :: rest, by simp, rfl, fun _ => rfl, ?_⟩
          exact List.forall_mem_cons.2 ⟨isPart_iff_passes.2 hp, hrest⟩
      · by_cases hopen : (isQuote c && opensAfter seen) = true
        · exact hgrow (some c) fun more => by rw [partsFrom, if_neg hcut, if_pos hopen]
        · exact hgrow none fun more => by rw [partsFrom, if_neg hcut, if_neg hopen]

/-- A text is cut into exactly those parts that it is joined from. -/
theorem parts_eq_ok_iff {text : List Char} {ps : List (List Char)} :
    parts text = .ok ps ↔ ps ≠ [] ∧ text = [';'].intercalate ps ∧ ∀ p ∈ ps, IsPart p := by
  constructor
  · intro h
    obtain ⟨p, rest, rfl, htext, hp, hrest⟩ := partsFrom_ok h
    exact ⟨List.cons_ne_nil _ _, htext, List.forall_mem_cons.2 ⟨isPart_iff_passes.2 hp, hrest⟩⟩
  · rintro ⟨hne, rfl, hps⟩
    exact parts_intercalate hne hps

/-! ## Keys and quoted values -/

/-- No quote opens before an equals sign. -/
theorem opensAfter_of_notMem {seen : List Char} (h : '=' ∉ seen) : opensAfter seen = false := by
  unfold opensAfter
  rw [beq_eq_false_iff_ne]
  intro hhead
  exact h (List.dropWhile_subset _ (List.mem_of_mem_head? hhead))

/-- Up to the equals sign every character but a semicolon is ordinary. -/
theorem partsFrom_key {key : List Char} (hcut : ';' ∉ key) (heq : '=' ∉ key) {seen : List Char}
    (hseen : '=' ∉ seen) (rest : List Char) :
    partsFrom seen none (key ++ rest) = partsFrom (key.reverse ++ seen) none rest := by
  induction key generalizing seen with
  | nil => rfl
  | cons c key ih =>
    simp only [List.mem_cons, not_or] at hcut heq
    have hstep : partsFrom seen none (c :: (key ++ rest)) =
        partsFrom (c :: seen) none (key ++ rest) := by
      rw [partsFrom, if_neg (Ne.symm hcut.1), opensAfter_of_notMem hseen, Bool.and_false,
        if_neg (by simp)]
    rw [List.cons_append, hstep, ih hcut.2 heq.2 (by simp [heq.1, hseen])]
    simp

/-- Inside quotes every character but the closing quote is ordinary. -/
theorem partsFrom_inside {q : Char} {value : List Char} (hq : q ∉ value) (seen rest : List Char) :
    partsFrom seen (some q) (value ++ q :: rest) =
      partsFrom (q :: value.reverse ++ seen) none rest := by
  induction value generalizing seen with
  | nil => rw [List.nil_append, partsFrom, if_pos rfl]; rfl
  | cons c value ih =>
    simp only [List.mem_cons, not_or] at hq
    rw [List.cons_append, partsFrom, if_neg (Ne.symm hq.1), ih hq.2]
    simp

/-- A quote that is not closed makes a text fail, with all that was seen. -/
theorem partsFrom_unclosed {q : Char} {value : List Char} (hq : q ∉ value) (seen : List Char) :
    partsFrom seen (some q) value = .error (seen.reverse ++ value) := by
  induction value generalizing seen with
  | nil => rw [List.append_nil]; rfl
  | cons c rest ih =>
    simp only [List.mem_cons, not_or] at hq
    rw [partsFrom, if_neg (Ne.symm hq.1), ih hq.2]
    simp

/-- A quote is no separator. -/
theorem ne_cut_of_isQuote {q : Char} (hq : isQuote q = true) : q ≠ ';' := by
  rintro rfl
  exact absurd hq (by decide)

/-- An equals sign and a quote behind it open a quoted value. -/
theorem partsFrom_opens {q : Char} (hq : isQuote q = true) (seen rest : List Char) :
    partsFrom seen none ('=' :: q :: rest) = partsFrom (q :: '=' :: seen) (some q) rest := by
  have hopen : opensAfter ('=' :: seen) = true := rfl
  rw [partsFrom, if_neg (by decide), show isQuote '=' = false from rfl, Bool.false_and,
    if_neg (by decide), partsFrom, if_neg (ne_cut_of_isQuote hq), hq, hopen, Bool.and_self,
    if_pos rfl]

/-- A part: the key, an equals sign and the value in quotes. -/
def writtenPart (key : List Char) (q : Char) (value : List Char) : List Char :=
  key ++ '=' :: q :: (value ++ [q])

/-- A key and a quoted value make a part, whatever characters the value consists of. -/
theorem isPart_writtenPart {key value : List Char} {q : Char} (hcut : ';' ∉ key) (heq : '=' ∉ key)
    (hq : isQuote q = true) (hvalue : q ∉ value) : IsPart (writtenPart key q value) := by
  intro rest
  unfold writtenPart
  rw [List.append_assoc, partsFrom_key hcut heq (by simp)]
  simp only [List.cons_append, List.append_assoc, List.nil_append, List.append_nil]
  rw [partsFrom_opens hq, partsFrom_inside hvalue]
  simp

/-! ## The key and the value of a part -/

/-- A key without an equals sign ends at the first one behind it. -/
theorem cutAtEquals_append {key : List Char} (heq : '=' ∉ key) (value : List Char) :
    cutAtEquals (key ++ '=' :: value) = some (key, value) := by
  have hkey : ∀ c ∈ key, (c != '=') = true := fun c hc => by
    rw [bne_iff_ne]
    rintro rfl
    exact heq hc
  unfold cutAtEquals
  rw [List.dropWhile_append_of_pos hkey, List.takeWhile_append_of_pos hkey]
  simp

/-- The quotes around a value are taken off, and nothing else. -/
theorem stripQuotes_quoted {q : Char} (hq : isQuote q = true) (value : List Char) :
    stripQuotes (q :: (value ++ [q])) = value := by
  simp only [stripQuotes, hq, List.getLast?_concat, List.dropLast_concat, beq_self_eq_true,
    Bool.and_self, if_true]

theorem isBlank_of_isQuote {q : Char} (hq : isQuote q = true) : Text.isBlank q = false := by
  unfold isQuote at hq
  rw [Bool.or_eq_true, beq_iff_eq, beq_iff_eq] at hq
  rcases hq with rfl | rfl <;> decide

end ConnPool.Properties
