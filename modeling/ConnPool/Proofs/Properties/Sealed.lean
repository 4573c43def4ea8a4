import ConnPool.Proofs.Properties.Order

/-!
# What is cut can be joined again

A sealed part keeps its quotes and its semicolons to itself: every quote that opens in it closes in
it, and a semicolon stands in it only between quotes. Cutting passes over such parts and over no
other text (`passes_iff_sealed`), so a text is cut into the sealed parts that it is joined from.

**Theorem (`parts_lose_nothing`).** The parts of a text, joined, are the text again, and each of
them taken alone is its own only part. A text has no parts exactly if, behind some sealed parts, it
opens a quote and never closes it; what is given back is the text from the part on that the quote is
in.

All of it rests on one look at how a text begins (`begins`): it is sealed, or a quote stays open
behind a sealed beginning, or a separator stands there.
-/

namespace ConnPool.Properties

/-! ## Sealed texts -/

/-- A text, behind `seen` with the last character first, that keeps to itself. A quote opens where
the text in front of it ends in an equals sign, blanks aside, and is closed by the next one of its
kind; what stands between them may be anything, and outside of them there is no separator. -/
inductive Sealed : List Char → List Char → Prop
  | nil {seen : List Char} : Sealed seen []
  | plain {seen rest : List Char} {c : Char} (hcut : c ≠ ';')
      (hplain : (isQuote c && opensAfter seen) = false) (hrest : Sealed (c :: seen) rest) :
      Sealed seen (c :: rest)
  | quoted {seen inner rest : List Char} {q : Char} (hopen : (isQuote q && opensAfter seen) = true)
      (hinner : q ∉ inner) (hrest : Sealed (q :: (inner.reverse ++ q :: seen)) rest) :
      Sealed seen (q :: (inner ++ q :: rest))

/-- A text, behind `seen`, in which a quote opens that does not occur again. -/
def LeavesOpen (seen text : List Char) : Prop :=
  ∃ before q after, text = before ++ q :: after ∧ Sealed seen before ∧
    (isQuote q && opensAfter (before.reverse ++ seen)) = true ∧ q ∉ after

theorem Sealed.append {seen p p' : List Char} (hp : Sealed seen p)
    (hp' : Sealed (p.reverse ++ seen) p') : Sealed seen (p ++ p') := by
  induction hp with
  | nil => exact hp'
  | plain hcut hplain _ ih => exact .plain hcut hplain (ih (by simpa using hp'))
  | quoted hopen hinner _ ih =>
    rw [List.cons_append, List.append_assoc, List.cons_append]
    exact .quoted hopen hinner (ih (by simpa using hp'))

/-- How a text begins, behind `seen`. -/
inductive Begins (seen : List Char) : List Char → Prop
  /-- All of it keeps to itself. -/
  | whole {text : List Char} (h : Sealed seen text) : Begins seen text
  /-- A quote stays open in it. -/
  | opened {text : List Char} (h : LeavesOpen seen text) : Begins seen text
  /-- There is a separator. -/
  | cut (p : List Char) (h : Sealed seen p) (rest : List Char) : Begins seen (p ++ ';' :: rest)

/-- What is sealed may stand in front. -/
theorem Sealed.begins {seen p rest : List Char} (hp : Sealed seen p)
    (hrest : Begins (p.reverse ++ seen) rest) : Begins seen (p ++ rest) := by
  cases hrest with
  | whole hrest => exact .whole (hp.append hrest)
  | opened hrest =>
    obtain ⟨before, q, after, rfl, hbefore, hopen, hafter⟩ := hrest
    exact .opened ⟨p ++ before, q, after, by simp, hp.append hbefore, by simpa using hopen, hafter⟩
  | cut p' hp' rest =>
    rw [← List.append_assoc]
    exact .cut (p ++ p') (hp.append hp') rest

theorem begins (seen text : List Char) : Begins seen text := by
  -- the induction is on the length: from an open quote it goes on behind the closing one
  induction hlen : text.length using Nat.strongRecOn generalizing seen text with
  | ind n ih =>
    cases text with
    | nil => exact .whole .nil
    | cons c rest =>
      rw [List.length_cons] at hlen
      by_cases hcut : c = ';'
      · subst hcut
        exact .cut [] .nil rest
      · by_cases hopen : (isQuote c && opensAfter seen) = true
        · by_cases hclosed : c ∈ rest
          · obtain ⟨inner, rest, rfl, hinner⟩ := List.eq_append_cons_of_mem hclosed
            rw [List.length_append, List.length_cons] at hlen
            have hquoted : Sealed seen (c :: (inner ++ [c])) := .quoted hopen hinner .nil
            have hall := hquoted.begins (ih rest.length (by omega) _ rest rfl)
            rwa [List.cons_append, List.append_assoc] at hall
          · exact .opened ⟨[], c, rest, rfl, .nil, hopen, hclosed⟩
        · have hplain : Sealed seen [c] := .plain hcut (Bool.eq_false_iff.2 hopen) .nil
          exact hplain.begins (ih rest.length (by omega) _ rest rfl)

/-! ## Cutting a text -/

/-- Cutting passes over a sealed text. -/
theorem Sealed.passes {seen p : List Char} (h : Sealed seen p) : Passes seen none p := by
  induction h with
  | nil => exact fun _ => rfl
  | plain hcut hplain _ ih =>
    refine ih.cons fun rest => ?_
    rw [partsFrom, if_neg hcut, if_neg (by simp [hplain])]
  | @quoted seen inner rest q hopen hinner _ ih =>
    intro more
    have hquote := (Bool.and_eq_true_iff.1 hopen).1
    rw [List.cons_append, List.append_assoc, List.cons_append, partsFrom,
      if_neg (ne_cut_of_isQuote hquote), if_pos hopen, partsFrom_inside hinner]
    refine (ih more).trans ?_
    simp

/-- A text that leaves a quote open has no parts. -/
theorem LeavesOpen.partsFrom_eq {seen text : List Char} (h : LeavesOpen seen text) :
    partsFrom seen none text = .error (seen.reverse ++ text) := by
  obtain ⟨before, q, after, rfl, hbefore, hopen, hafter⟩ := h
  have hquote := (Bool.and_eq_true_iff.1 hopen).1
  rw [hbefore.passes, partsFrom, if_neg (ne_cut_of_isQuote hquote), if_pos hopen,
    partsFrom_unclosed hafter]
  simp

/-- Cutting passes over the sealed texts and no others. -/
theorem passes_iff_sealed {seen p : List Char} : Passes seen none p ↔ Sealed seen p := by
  refine ⟨fun h => ?_, Sealed.passes⟩
  have hall : partsFrom seen none p = .ok [seen.reverse ++ p] := by
    have hend := h []
    rw [List.append_nil] at hend
    rw [hend, partsFrom]
    simp
  rcases begins seen p with hp | hopen | ⟨p, hp, rest⟩
  · exact hp
  · rw [hopen.partsFrom_eq] at hall
    cases hall
  · -- behind a separator there would be a part more
    rw [hp.passes, partsFrom, if_pos rfl] at hall
    cases hrest : partsFrom [] none rest with
    | error left =>
      rw [hrest] at hall
      cases hall
    | ok qs =>
      obtain ⟨q, qs, rfl, -⟩ := partsFrom_ok hrest
      rw [hrest] at hall
      simp [Except.map] at hall

theorem isPart_iff_sealed {p : List Char} : IsPart p ↔ Sealed [] p :=
  isPart_iff_passes.trans passes_iff_sealed

/-- A part is what is its own only part. -/
theorem isPart_iff_parts_eq {p : List Char} : IsPart p ↔ parts p = .ok [p] := by
  rw [parts_eq_ok_iff]
  simp

/-- A text is not cut exactly if a quote stays open behind some of its parts. -/
theorem parts_eq_error_iff {text left : List Char} :
    parts text = .error left ↔
      ∃ ps, text = [';'].intercalate (ps ++ [left]) ∧ (∀ p ∈ ps, IsPart p) ∧
        LeavesOpen [] left := by
  constructor
  · intro h
    induction hlen : text.length using Nat.strongRecOn generalizing text with
    | ind n ih =>
      rcases begins [] text with hp | hopen | ⟨p, hp, rest⟩
      · rw [isPart_iff_parts_eq.1 (isPart_iff_sealed.2 hp)] at h
        cases h
      · rw [parts, hopen.partsFrom_eq] at h
        cases h
        exact ⟨[], by simp, List.forall_mem_nil _, hopen⟩
      · have hpart := isPart_iff_sealed.2 hp
        rw [hpart.parts_append] at h
        cases hrest : parts rest with
        | ok qs =>
          rw [hrest] at h
          cases h
        | error left' =>
          rw [hrest] at h
          cases h
          have hshort : rest.length < n := by
            rw [List.length_append, List.length_cons] at hlen
            omega
          obtain ⟨ps, rfl, hps, hopen⟩ := ih _ hshort hrest rfl
          refine ⟨p :: ps, ?_, List.forall_mem_cons.2 ⟨hpart, hps⟩, hopen⟩
          rw [List.cons_append, intercalate_cut p (by simp)]
  · rintro ⟨ps, rfl, hps, hopen⟩
    induction ps with
    | nil =>
      rw [List.nil_append, List.intercalate_singleton, parts, hopen.partsFrom_eq]
      rfl
    | cons p ps ih =>
      obtain ⟨hp, hps⟩ := List.forall_mem_cons.1 hps
      rw [List.cons_append, intercalate_cut p (by simp), hp.parts_append, ih hps]
      rfl

/-- **Cutting loses nothing.** The parts of a text are the sealed parts that it is joined from with
separators, and a part alone is sealed just if it is its own only part. A text is rejected exactly
if behind some sealed parts the rest of it opens a quote that is never closed, and then this rest is
what is given back. -/
theorem parts_lose_nothing (text : String) :
    (∀ ps, parts text.toList = .ok ps ↔
      ps ≠ [] ∧ joined ps = text ∧ ∀ p ∈ ps, Sealed [] p) ∧
    (∀ p, Sealed [] p ↔ parts p = .ok [p]) ∧
    ∀ left, parts text.toList = .error left ↔
      ∃ ps, joined (ps ++ [left]) = text ∧ (∀ p ∈ ps, Sealed [] p) ∧ LeavesOpen [] left := by
  have hjoined : ∀ ps, joined ps = text ↔ text.toList = [';'].intercalate ps := by
    intro ps
    rw [joined, ← String.toList_inj, String.toList_ofList, eq_comm]
  simp only [hjoined, ← isPart_iff_sealed]
  exact ⟨fun ps => parts_eq_ok_iff, fun p => isPart_iff_parts_eq, fun left => parts_eq_error_iff⟩

/-- A text with a semicolon in quotes and a quote in a bare value, and one with a quote that stays
open. -/
theorem parts_lose_nothing_quoted :
    parts "url=db;user='é;b';note=o'k".toList =
        .ok (["url=db", "user='é;b'", "note=o'k"].map String.toList) ∧
      joined (["url=db", "user='é;b'", "note=o'k"].map String.toList) =
        "url=db;user='é;b';note=o'k" ∧
      parts "user='é;b'".toList = .ok ["user='é;b'".toList] ∧
      parts "url=db;password = \"p;q".toList = .error "password = \"p;q".toList ∧
      LeavesOpen [] "password = \"p;q".toList := by
  have hcut : parts "url=db;user='é;b';note=o'k".toList =
      .ok (["url=db", "user='é;b'", "note=o'k"].map String.toList) := by decide +kernel
  have hopen : parts "url=db;password = \"p;q".toList = .error "password = \"p;q".toList := by
    decide +kernel
  obtain ⟨hparts, halone, -⟩ := parts_lose_nothing "url=db;user='é;b';note=o'k"
  obtain ⟨-, hjoin, hsealed⟩ := (hparts _).1 hcut
  obtain ⟨-, -, -, hleft⟩ := ((parts_lose_nothing "url=db;password = \"p;q").2.2 _).1 hopen
  exact ⟨hcut, hjoin, (halone _).1 (hsealed _ (by simp)), hopen, hleft⟩

end ConnPool.Properties
