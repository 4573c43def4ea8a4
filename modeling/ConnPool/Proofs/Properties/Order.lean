import ConnPool.Proofs.Properties.Assigning
import ConnPool.Proofs.Properties.Parts

/-!
# Property texts in another order

**Theorem (`read_rearranged`).** Take any property text that is accepted. Two neighbouring parts
that assign different settings may change places, and a part may be left out if it assigns nothing
or assigns what a later part assigns again. The text that results is accepted too, as the same
source.

What a part assigns is said by its key (`assigned?`). Quotes do not reach over the end of a part:
each part is one by itself (`parts_eq_ok_iff`), so the parts are cut out of the new text as they
were cut out of the old one. Then what remains is about carrying them out. The effects of two parts
commute if they assign different settings (`effect_comm`), and otherwise the later one covers the
earlier one (`effect_effect`). As the check comes after all of them, it sees the same source.
-/

namespace ConnPool.Properties

/-! ## What a part assigns -/

/-- The setting that a part assigns. There is none if the part is blank or its key stands for no
setting. -/
def assigned? (part : List Char) : Option Setting :=
  (cutAtEquals (Text.trim part)).bind fun cut =>
    Setting.ofKey? (String.ofList (Text.lower (Text.trim cut.1)))

/-- What reading a part yields sets what the part assigns. -/
theorem setting_of_read {part : List Char} {x : Option Assignment}
    (h : Assignment.read part = .ok x) : x.bind Assignment.setting = assigned? part := by
  unfold Assignment.read at h
  unfold assigned?
  dsimp only at h
  by_cases hblank : (Text.trim part).isEmpty = true
  · rw [if_pos hblank] at h
    cases h
    rw [List.isEmpty_iff.1 hblank]
    rfl
  · rw [if_neg hblank] at h
    cases hcut : cutAtEquals (Text.trim part) with
    | none =>
      rw [hcut] at h
      exact nomatch h
    | some cut =>
      rw [hcut] at h
      obtain ⟨key, value⟩ := cut
      dsimp only at h
      cases hkey : Assignment.ofKey (String.ofList (Text.lower (Text.trim key)))
          (String.ofList (stripQuotes (Text.trim value))) with
      | error e =>
        rw [hkey] at h
        exact nomatch h
      | ok a =>
        rw [hkey] at h
        cases h
        exact Assignment.setting_of_ofKey hkey

/-! ## The effect of a part -/

/-- The source after what was read from a part. -/
def effect (x : Option Assignment) (s : Source) : Source := x.elim s (·.apply s)

theorem effect_idle {x : Option Assignment} (h : x.bind Assignment.setting = none) (s : Source) :
    effect x s = s := by
  cases x with
  | none => rfl
  | some a =>
    cases a with
    | unknown key => rfl
    | _ => exact nomatch h

theorem effect_comm {x y : Option Assignment}
    (h : x.bind Assignment.setting ≠ y.bind Assignment.setting) (s : Source) :
    effect y (effect x s) = effect x (effect y s) := by
  cases x with
  | none => rfl
  | some a =>
    cases y with
    | none => rfl
    | some b => exact Assignment.apply_comm h s

theorem effect_effect {x y : Option Assignment}
    (h : x.bind Assignment.setting = y.bind Assignment.setting) (s : Source) :
    effect y (effect x s) = effect y s := by
  cases y with
  | none => exact effect_idle h s
  | some b =>
    cases x with
    | none => rfl
    | some a => exact Assignment.apply_apply h s

/-! ## Carrying parts out -/

theorem carryOut_cons {part : List Char} {x : Option Assignment} (h : Assignment.read part = .ok x)
    (s : Source) (rest : List (List Char)) :
    carryOut s (part :: rest) = carryOut (effect x s) rest := by
  rw [carryOut, h]
  cases x <;> rfl

theorem carryOut_append (s : Source) (ps qs : List (List Char)) :
    carryOut s (ps ++ qs) = (carryOut s ps).bind (carryOut · qs) := by
  induction ps generalizing s with
  | nil => rfl
  | cons p rest ih =>
    rw [List.cons_append]
    cases hread : Assignment.read p with
    | error e =>
      rw [carryOut, carryOut, hread]
      rfl
    | ok x => rw [carryOut_cons hread, carryOut_cons hread, ih]

/-- If parts can be carried out, each of them can be read. -/
theorem exists_read_of_carryOut {s s' : Source} {ps : List (List Char)}
    (h : carryOut s ps = .ok s') : ∀ p ∈ ps, ∃ x, Assignment.read p = .ok x := by
  induction ps generalizing s with
  | nil => exact List.forall_mem_nil _
  | cons p rest ih =>
    cases hread : Assignment.read p with
    | error e =>
      rw [carryOut, hread] at h
      exact nomatch h
    | ok x =>
      rw [carryOut_cons hread] at h
      exact List.forall_mem_cons.2 ⟨⟨x, hread⟩, ih h⟩

/-- Where a setting is assigned, nothing is left of what it was set to before. -/
theorem carryOut_covered {x : Option Assignment} {ps : List (List Char)}
    (h : ∃ p ∈ ps, assigned? p = x.bind Assignment.setting) (s : Source) :
    carryOut (effect x s) ps = carryOut s ps := by
  induction ps generalizing s with
  | nil =>
    obtain ⟨p, hp, -⟩ := h
    exact nomatch hp
  | cons q rest ih =>
    cases hread : Assignment.read q with
    | error e => rw [carryOut, carryOut, hread]
    | ok y =>
      rw [carryOut_cons hread, carryOut_cons hread]
      by_cases heq : x.bind Assignment.setting = y.bind Assignment.setting
      · rw [effect_effect heq]
      · -- the assignment that covers `x` comes later, and `x` may wait for it
        have hrest : ∃ p ∈ rest, assigned? p = x.bind Assignment.setting := by
          obtain ⟨p, hp, hset⟩ := h
          rcases List.mem_cons.1 hp with rfl | hp
          · exact absurd (hset.symm.trans (setting_of_read hread).symm) heq
          · exact ⟨p, hp, hset⟩
        rw [effect_comm heq, ih hrest]

/-! ## Rearranged texts -/

/-- The text that parts are joined to. -/
def joined (ps : List (List Char)) : String := String.ofList ([';'].intercalate ps)

/-- What a text that is joined from parts is read as. -/
theorem read_joined {ps : List (List Char)} (hps : ∀ p ∈ ps, IsPart p) :
    (read (joined ps)).outcome = (carryOut {} ps).bind check := by
  by_cases hne : ps = []
  · -- the empty text is one blank part
    subst hne
    rfl
  · have hcut : parts (joined ps).toList = .ok ps := by
      unfold joined
      rw [String.toList_ofList]
      exact parts_intercalate hne hps
    unfold read
    rw [hcut]

/-- A part can be spared: it assigns nothing, or a part behind it assigns the same setting. -/
def Spare (part : List Char) (behind : List (List Char)) : Prop :=
  assigned? part = none ∨ ∃ p ∈ behind, assigned? p = assigned? part

/-- **The order of a property text does not matter, except that the last assignment wins.** Any text
that is accepted is joined from its parts, and it is accepted as the same source after two
neighbouring parts that do not assign the same setting have changed places, and after a part that
can be spared was left out, together with its separator. -/
theorem read_rearranged {text : String} {s : Source} (h : (read text).outcome = .ok s) :
    ∃ ps, parts text.toList = .ok ps ∧ text = joined ps ∧
      (∀ before a b after, ps = before ++ a :: b :: after → assigned? a ≠ assigned? b →
        (read (joined (before ++ b :: a :: after))).outcome = .ok s) ∧
      ∀ before a after, ps = before ++ a :: after → Spare a after →
        (read (joined (before ++ after))).outcome = .ok s := by
  cases hcut : parts text.toList with
  | error left =>
    unfold read at h
    rw [hcut] at h
    exact nomatch h
  | ok ps =>
    obtain ⟨-, htext, hps⟩ := parts_eq_ok_iff.1 hcut
    have htext : text = joined ps := by rw [joined, ← htext, String.ofList_toList]
    rw [htext, read_joined hps] at h
    -- every part can be read, and so can those in front of any of them
    have hread : ∀ p ∈ ps, ∃ x, Assignment.read p = .ok x := by
      cases hdone : carryOut {} ps with
      | error e =>
        rw [hdone] at h
        exact nomatch h
      | ok s' => exact exists_read_of_carryOut hdone
    refine ⟨ps, rfl, htext, ?_, ?_⟩
    · rintro before a b after rfl hne
      obtain ⟨x, hx⟩ := hread a (by simp)
      obtain ⟨y, hy⟩ := hread b (by simp)
      rw [← setting_of_read hx, ← setting_of_read hy] at hne
      have hswap : ∀ s, carryOut s (b :: a :: after) = carryOut s (a :: b :: after) := by
        intro s
        rw [carryOut_cons hy, carryOut_cons hx, carryOut_cons hx, carryOut_cons hy,
          effect_comm hne]
      rw [read_joined fun p hp => hps p (by simpa [or_left_comm] using hp), carryOut_append]
      simp only [hswap]
      rw [← carryOut_append]
      exact h
    · rintro before a after rfl hspare
      obtain ⟨x, hx⟩ := hread a (by simp)
      have hdrop : ∀ s, carryOut s (a :: after) = carryOut s after := by
        intro s
        rw [carryOut_cons hx]
        rw [Spare, ← setting_of_read hx] at hspare
        rcases hspare with hidle | hcovered
        · rw [effect_idle hidle]
        · exact carryOut_covered hcovered s
      rw [read_joined fun p hp => hps p (by simp at hp ⊢; tauto), carryOut_append]
      simp only [carryOut_append, hdrop] at h
      exact h

/-- Parts with quotes and blanks in them: a key that is not known, a blank part, and a user that is
named twice. -/
def shuffledParts : List (List Char) :=
  [" User = 'a;b'", "url=db", "colour=\"red;\"", " ", "DRIVER.ssl = on", "USERNAME=\"it's\""].map
    String.toList

/-- What they are read as. -/
def shuffled : Source where
  target := {
    url := "db"
    username := some "it's"
    driverProperties := DriverProperties.empty.insert "ssl" "on" }

/-- The last two parts may change places, and the first user, the colour and the blank part may be
left out. -/
theorem read_rearranged_shuffled :
    (read (joined shuffledParts)).outcome = .ok shuffled ∧
      (read " User = 'a;b';url=db;colour=\"red;\"; ;USERNAME=\"it's\";DRIVER.ssl = on").outcome =
        .ok shuffled ∧
      (read "url=db;colour=\"red;\"; ;DRIVER.ssl = on;USERNAME=\"it's\"").outcome = .ok shuffled ∧
      (read " User = 'a;b';url=db; ;DRIVER.ssl = on;USERNAME=\"it's\"").outcome = .ok shuffled ∧
      (read " User = 'a;b';url=db;colour=\"red;\";DRIVER.ssl = on;USERNAME=\"it's\"").outcome =
        .ok shuffled := by
  have haccepted : (read (joined shuffledParts)).outcome = .ok shuffled := by decide +kernel
  have hcut : parts (joined shuffledParts).toList = .ok shuffledParts := by decide +kernel
  obtain ⟨ps, hps, -, hswap, hdrop⟩ := read_rearranged haccepted
  obtain rfl : shuffledParts = ps := Except.ok.inj (hcut.symm.trans hps)
  refine ⟨haccepted, ?_, ?_, ?_, ?_⟩
  · exact hswap (shuffledParts.take 4) _ _ [] rfl (by decide)
  · exact hdrop [] _ (shuffledParts.drop 1) rfl (.inr (by decide))
  · exact hdrop (shuffledParts.take 2) _ (shuffledParts.drop 3) rfl (.inl (by decide))
  · exact hdrop (shuffledParts.take 3) _ (shuffledParts.drop 4) rfl (.inl (by decide))

end ConnPool.Properties
