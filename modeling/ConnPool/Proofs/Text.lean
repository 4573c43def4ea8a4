import ConnPool.Text.Blank
import ConnPool.Text.Decimal
import ConnPool.Text.Lowercase
import Mathlib.Data.List.DropRight

/-!
# Texts that reading leaves as they are

Trimming changes nothing in a text that neither begins nor ends with a blank, and it does not look
behind a character that is not blank (`trim_append_cons`). Lowercase changes nothing in a text
exactly when it changes none of its characters (`lower_eq_self_iff`), so a text that is its own
lowercase form may be put behind another such text. And a count is read back from its decimal
digits (`readCount_toString`).
-/

namespace ConnPool.Text

/-! ## Trimming -/

theorem trimStart_eq_self {s : List Char} (h : ∀ c ∈ s.head?, isBlank c = false) :
    trimStart s = s := by
  cases s with
  | nil => rfl
  | cons c rest => exact List.dropWhile_cons_of_neg (by simp [h c rfl])

theorem trimEnd_eq_self {s : List Char} (h : ∀ c ∈ s.getLast?, isBlank c = false) :
    trimEnd s = s := by
  have hr : trimStart s.reverse = s.reverse := trimStart_eq_self (by rwa [List.head?_reverse])
  unfold trimEnd
  rw [show s.reverse.dropWhile isBlank = s.reverse from hr, List.reverse_reverse]

/-- A text without blanks at its ends has nothing to trim. -/
theorem trim_eq_self {s : List Char} (hfirst : ∀ c ∈ s.head?, isBlank c = false)
    (hlast : ∀ c ∈ s.getLast?, isBlank c = false) : trim s = s := by
  unfold trim
  rw [trimStart_eq_self hfirst, trimEnd_eq_self hlast]

theorem trimStart_append_cons {c : Char} (hc : isBlank c = false) (s t : List Char) :
    trimStart (s ++ c :: t) = trimStart s ++ c :: t := by
  unfold trimStart
  rw [List.dropWhile_append, List.dropWhile_cons_of_neg (by simp [hc])]
  by_cases hs : (s.dropWhile isBlank).isEmpty = true
  · rw [if_pos hs, List.isEmpty_iff.1 hs, List.nil_append]
  · rw [if_neg hs]

theorem trimEnd_append_cons {c : Char} (hc : isBlank c = false) (s t : List Char) :
    trimEnd (s ++ c :: t) = s ++ c :: trimEnd t := by
  have hflip : (s ++ c :: t).reverse = t.reverse ++ c :: s.reverse := by simp
  have hdrop := trimStart_append_cons hc t.reverse s.reverse
  unfold trimStart at hdrop
  unfold trimEnd
  rw [hflip, hdrop]
  simp

/-- Trimming does not look behind a character that is not blank. -/
theorem trim_append_cons {c : Char} (hc : isBlank c = false) (s t : List Char) :
    trim (s ++ c :: t) = trimStart s ++ c :: trimEnd t := by
  unfold trim
  rw [trimStart_append_cons hc, trimEnd_append_cons hc]

theorem trim_trimStart (s : List Char) : trim (trimStart s) = trim s := by
  unfold trim trimStart
  rw [List.dropWhile_idempotent]

theorem trim_trimEnd (s : List Char) : trim (trimEnd s) = trim s := by
  by_cases hs : ∀ c ∈ s, isBlank c = true
  · -- nothing is left of a blank text
    have hstart : trimStart s = [] := List.dropWhile_eq_nil_iff.2 hs
    have hend : trimEnd s = [] := List.rdropWhile_eq_nil_iff.2 hs
    unfold trim
    rw [hend, hstart]
    rfl
  · simp only [not_forall, Bool.not_eq_true] at hs
    obtain ⟨c, hmem, hc⟩ := hs
    obtain ⟨a, b, rfl⟩ := List.append_of_mem hmem
    have hend : trimEnd (trimEnd b) = trimEnd b := List.rdropWhile_idempotent isBlank b
    rw [trimEnd_append_cons hc, trim_append_cons hc, trim_append_cons hc, hend]

/-- What trimming leaves begins as the text does behind its leading blanks. -/
theorem head?_trim {s : List Char} {c : Char} (h : c ∈ (trim s).head?) :
    c ∈ (trimStart s).head? := by
  obtain ⟨more, hmore⟩ : trim s <+: trimStart s := List.rdropWhile_prefix isBlank (trimStart s)
  rw [← hmore, List.head?_append, Option.mem_def.1 h]
  rfl

/-! ## Lowercase -/

/-- A character that lowercase does not change, wherever it stands. -/
def IsLower (c : Char) : Prop := c ≠ 'Σ' ∧ lowerChar c = [c]

instance (c : Char) : Decidable (IsLower c) := inferInstanceAs (Decidable (_ ∧ _))

theorem one_le_length_lowerChar (c : Char) : 1 ≤ (lowerChar c).length := by
  unfold lowerChar
  split
  · simp
  · split <;> simp

/-- No character disappears. -/
theorem length_le_lowerAfter (before s : List Char) : s.length ≤ (lowerAfter before s).length := by
  induction s generalizing before with
  | nil => simp
  | cons c rest ih =>
    have hc := one_le_length_lowerChar c
    have hrest := ih (c :: before)
    simp only [lowerAfter, List.length_append, List.length_cons]
    by_cases hσ : c = 'Σ'
    · rw [if_pos hσ, List.length_singleton]
      omega
    · rw [if_neg hσ]
      omega

theorem lowerSigma_ne (before after : List Char) : lowerSigma before after ≠ 'Σ' := by
  unfold lowerSigma
  split <;> decide

/-- In a text that lowercase does not change, it changes no character: as none disappears, each
stands for itself alone. -/
theorem isLower_of_lowerAfter {before s : List Char} (h : lowerAfter before s = s) {c : Char}
    (hc : c ∈ s) : IsLower c := by
  induction s generalizing before with
  | nil => simp at hc
  | cons a rest ih =>
    rw [lowerAfter] at h
    have hlen := congrArg List.length h
    have hrest := length_le_lowerAfter (a :: before) rest
    have ha := one_le_length_lowerChar a
    by_cases hσ : a = 'Σ'
    · rw [if_pos hσ] at h
      exact absurd ((List.cons.inj h).1.trans hσ) (lowerSigma_ne _ _)
    · rw [if_neg hσ] at h hlen
      simp only [List.length_append, List.length_cons] at hlen
      obtain ⟨hhead, htail⟩ :=
        List.append_inj (h.trans (List.singleton_append (x := a) (l := rest)).symm)
          (by rw [List.length_singleton]; omega)
      rcases List.mem_cons.1 hc with rfl | hc
      · exact ⟨hσ, hhead⟩
      · exact ih htail hc

theorem lowerAfter_eq_self {before s : List Char} (h : ∀ c ∈ s, IsLower c) :
    lowerAfter before s = s := by
  induction s generalizing before with
  | nil => rfl
  | cons c rest ih =>
    obtain ⟨hσ, hc⟩ := h c (by simp)
    rw [lowerAfter, if_neg hσ, hc, ih fun d hd => h d (List.mem_cons_of_mem _ hd)]
    rfl

/-- Lowercase leaves a text alone exactly when it leaves every character alone. -/
theorem lower_eq_self_iff {s : List Char} : lower s = s ↔ ∀ c ∈ s, IsLower c :=
  ⟨fun h _ hc => isLower_of_lowerAfter h hc, lowerAfter_eq_self⟩

theorem lower_append_eq_self {s t : List Char} (hs : lower s = s) (ht : lower t = t) :
    lower (s ++ t) = s ++ t := by
  rw [lower_eq_self_iff] at hs ht ⊢
  intro c hc
  rcases List.mem_append.1 hc with hc | hc
  · exact hs c hc
  · exact ht c hc

/-! ## Counts -/

theorem digitsValue_eq (s : List Char) : digitsValue s = Nat.ofDigitChars 10 s 0 := by
  rw [Nat.ofDigitChars_eq_foldl]
  unfold digitsValue digitValue
  simp only [Nat.mul_comm]

theorem toList_toString (n : Nat) : (toString n).toList = Nat.toDigits 10 n := by
  rw [Nat.toString_eq_ofList_toDigits, String.toList_ofList]

theorem isDigit_of_mem_toString {n : Nat} {c : Char} (hc : c ∈ (toString n).toList) :
    c.isDigit = true :=
  Nat.isDigit_of_mem_toDigits (by decide) (by decide) (toList_toString n ▸ hc)

/-- A count that fits in 64 bits is read back from its digits. -/
theorem readCount_toString {n : Nat} (h : n ≤ maxCount) :
    readCount (toString n).toList = some n := by
  have hdigit : ∀ c ∈ Nat.toDigits 10 n, c.isDigit = true := fun c hc =>
    isDigit_of_mem_toString (toList_toString n ▸ hc)
  have hsign : unsigned (Nat.toDigits 10 n) = Nat.toDigits 10 n := by
    unfold unsigned
    split
    · rename_i rest heq
      exact absurd (hdigit '+' (by rw [heq]; simp)) (by decide)
    · rfl
  have hread : readDigits (Nat.toDigits 10 n) = some n := by
    unfold readDigits
    rw [if_pos ⟨Nat.toDigits_ne_nil, List.all_eq_true.2 hdigit⟩, digitsValue_eq,
      Nat.ofDigitChars_ten_toDigits]
  unfold readCount
  rw [toList_toString, hsign, hread]
  simp [h]

end ConnPool.Text
