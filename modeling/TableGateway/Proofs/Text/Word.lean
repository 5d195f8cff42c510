import Mathlib.Data.List.Forall2
import TableGateway.Pattern.Syntax
import TableGateway.Text.Blank

/-!
# Whole words

A word stands in a text as a whole word where its characters stand, in whatever case, between two
word boundaries. The search for a word of capital letters finds just this. A word that is there
stays there behind any text that does not end in a character of a word.
-/

namespace TableGateway.Text

open Pattern (Look WordKind)
open Unicode (caseOrbit)

/-- The characters are those of the word without regard to case. -/
def Spells (word found : List Char) : Prop :=
  List.Forall₂ (fun w c => c ∈ caseOrbit w) word found

/-- A word begins or ends at the position between two characters. -/
def IsBoundary (before after : Option Char) : Prop :=
  Look.holds before after (.wordBoundary .unicode) = true

/-- The word stands in a text as a whole word, in whatever case. -/
def HoldsWord (word text : List Char) : Prop :=
  ∃ before found after, text = before ++ (found ++ after) ∧ Spells word found ∧
    IsBoundary before.getLast? (found ++ after).head? ∧
    IsBoundary (before ++ found).getLast? after.head?

/-! ## Capital letters -/

/-- A capital letter whose only other form is its small letter. -/
structure IsPlainCapital (w : Char) : Prop where
  capital : w.isUpper = true
  orbit : caseOrbit w = [w, w.toLower]

instance (w : Char) : Decidable (IsPlainCapital w) :=
  decidable_of_iff (w.isUpper = true ∧ caseOrbit w = [w, w.toLower])
    ⟨fun h => ⟨h.1, h.2⟩, fun h => ⟨h.capital, h.orbit⟩⟩

theorem toUpper_eq_iff {w : Char} (capital : w.isUpper = true) (c : Char) :
    c.toUpper = w ↔ c = w ∨ c = w.toLower := by
  unfold Char.isUpper at capital
  unfold Char.toUpper Char.toLower
  simp only [Char.ext_iff]
  split <;> grind [UInt32.toNat_add, UInt32.toNat_inj]

theorem isAlpha_of_isUpper_toUpper {c : Char} (capital : c.toUpper.isUpper = true) :
    c.isAlpha = true := by
  unfold Char.isUpper Char.toUpper at capital
  unfold Char.isAlpha Char.isUpper Char.isLower
  split at capital <;> grind

namespace IsPlainCapital

variable {w c : Char}

theorem mem_orbit_iff (plain : IsPlainCapital w) : c ∈ caseOrbit w ↔ c.toUpper = w := by
  rw [plain.orbit, toUpper_eq_iff plain.capital]
  simp

theorem isWordChar_of_toUpper (plain : IsPlainCapital w) (same : c.toUpper = w) :
    isWordChar c = true := by
  have letter : c.isAlpha = true := isAlpha_of_isUpper_toUpper (same ▸ plain.capital)
  have ascii : c.toNat < 0x80 := by
    have bounds := isAlpha_iff_toNat.1 letter
    omega
  rw [isWordChar, if_pos ascii]
  simp [Char.isAlphanum, letter]

end IsPlainCapital

/-! ## The search -/

variable {word text : List Char}

theorem afterWord?_eq_some_iff (plain : ∀ w ∈ word, IsPlainCapital w) {after : List Char} :
    afterWord? word text = some after ↔ ∃ found, text = found ++ after ∧ Spells word found := by
  induction word generalizing text with
  | nil => simp [afterWord?, Spells]
  | cons w word ih =>
      obtain ⟨capital, others⟩ := List.forall_mem_cons.1 plain
      cases text with
      | nil =>
          refine iff_of_false nofun ?_
          rintro ⟨found, parts, spells⟩
          obtain ⟨c, rest, -, -, rfl⟩ := List.forall₂_cons_left_iff.1 spells
          cases parts
      | cons c text =>
          rw [afterWord?]
          constructor
          · intro follows
            split at follows
            · next same =>
                obtain ⟨found, rfl, spells⟩ := (ih others).1 follows
                exact ⟨c :: found, rfl, .cons (capital.mem_orbit_iff.2 same) spells⟩
            · cases follows
          · rintro ⟨found, parts, spells⟩
            obtain ⟨d, rest, same, more, rfl⟩ := List.forall₂_cons_left_iff.1 spells
            obtain ⟨rfl, rfl⟩ := List.cons.inj parts
            rw [if_pos (capital.mem_orbit_iff.1 same)]
            exact (ih others).2 ⟨rest, rfl, more⟩

theorem Spells.isWordChar (plain : ∀ w ∈ word, IsPlainCapital w) {found : List Char}
    (spells : Spells word found) : ∀ c ∈ found, isWordChar c = true := by
  induction spells with
  | nil => exact nofun
  | cons same _ ih =>
      obtain ⟨capital, others⟩ := List.forall_mem_cons.1 plain
      exact List.forall_mem_cons.2
        ⟨capital.isWordChar_of_toUpper (capital.mem_orbit_iff.1 same), ih others⟩

/-- In front of a character of a word a boundary stands where no word goes on. -/
theorem isBoundary_some_iff {before : Option Char} {c : Char} (part : isWordChar c = true) :
    IsBoundary before (some c) ↔ WordKind.unicode.at before = false := by
  simp [IsBoundary, Look.holds, WordKind.at, WordKind.holds, part]

theorem isBoundary_some_left_iff {c : Char} {after : List Char} (part : isWordChar c = true) :
    IsBoundary (some c) after.head? ↔ isWordEnd after = true := by
  cases after <;> simp [IsBoundary, Look.holds, WordKind.at, WordKind.holds, part, isWordEnd]

/-- A word that is found stands between two boundaries exactly where no word goes on, neither into
it nor out of it. -/
theorem Spells.between_iff (plain : ∀ w ∈ word, IsPlainCapital w) (some_letter : word ≠ [])
    {front : Option Char} {before found after : List Char} (spells : Spells word found) :
    IsBoundary front (found ++ after).head? ∧ IsBoundary (before ++ found).getLast? after.head? ↔
      WordKind.unicode.at front = false ∧ isWordEnd after = true := by
  have parts := spells.isWordChar plain
  have some_found : found ≠ [] := by
    rintro rfl
    cases spells
    exact some_letter rfl
  obtain ⟨c, rest, same⟩ := List.exists_cons_of_ne_nil some_found
  have first : (found ++ after).head? = some c := by rw [same, List.cons_append, List.head?_cons]
  have last : (before ++ found).getLast? = some (found.getLast some_found) := by
    rw [List.getLast?_append_of_ne_nil _ some_found, List.getLast?_eq_some_getLast some_found]
  rw [first, last, isBoundary_some_iff (parts c (same ▸ List.mem_cons_self)),
    isBoundary_some_left_iff (parts _ (List.getLast_mem some_found))]

/-- The search finds the word where it is spelled and no word goes on into it or out of it. -/
theorem hasWord_eq_true_iff (plain : ∀ w ∈ word, IsPlainCapital w) (some_letter : word ≠ [])
    (front : Option Char) (text : List Char) :
    hasWord word (WordKind.unicode.at front) text = true ↔
      ∃ before found after, text = before ++ (found ++ after) ∧ Spells word found ∧
        WordKind.unicode.at (before.getLast?.or front) = false ∧ isWordEnd after = true := by
  induction text generalizing front with
  | nil =>
      refine iff_of_false nofun ?_
      rintro ⟨before, found, after, parts, spells, -⟩
      obtain ⟨-, rfl, -⟩ := by simpa using parts.symm
      cases spells
      exact some_letter rfl
  | cons c rest ih =>
      -- the word starts here, or behind `c`
      have behind := ih (some c)
      rw [hasWord, Bool.or_eq_true, Bool.and_eq_true, Bool.not_eq_true']
      constructor
      · rintro (⟨free, here⟩ | later)
        · split at here
          · next after follows =>
              obtain ⟨found, parts, spells⟩ := (afterWord?_eq_some_iff plain).1 follows
              exact ⟨[], found, after, parts, spells, free, here⟩
          · cases here
        · obtain ⟨before, found, after, rfl, spells, free, ends⟩ := behind.1 later
          refine ⟨c :: before, found, after, rfl, spells, ?_, ends⟩
          cases last : before.getLast? <;> simpa [List.getLast?_cons, last] using free
      · rintro ⟨before, found, after, parts, spells, free, ends⟩
        cases before with
        | nil =>
            have follows := (afterWord?_eq_some_iff plain).2 ⟨found, parts, spells⟩
            exact .inl ⟨free, by rw [follows]; exact ends⟩
        | cons d before =>
            obtain ⟨rfl, rfl⟩ := List.cons.inj parts
            refine .inr (behind.2 ⟨before, found, after, rfl, spells, ?_, ends⟩)
            cases last : before.getLast? <;> simpa [List.getLast?_cons, last] using free

/-- The search finds a word exactly where it stands as a whole word. -/
theorem hasWord_iff (plain : ∀ w ∈ word, IsPlainCapital w) (some_letter : word ≠ [])
    (text : List Char) : hasWord word false text = true ↔ HoldsWord word text := by
  refine (hasWord_eq_true_iff plain some_letter none text).trans ?_
  refine exists₃_congr fun before found after => and_congr_right fun _ => and_congr_right ?_
  intro spells
  rw [Option.or_none]
  exact (spells.between_iff plain some_letter).symm

theorem Spells.holdsWord (plain : ∀ w ∈ word, IsPlainCapital w) (some_letter : word ≠ [])
    {before found after : List Char} (spells : Spells word found)
    (free : WordKind.unicode.at before.getLast? = false) (ends : isWordEnd after = true) :
    HoldsWord word (before ++ (found ++ after)) :=
  ⟨before, found, after, rfl, spells, (spells.between_iff plain some_letter).2 ⟨free, ends⟩⟩

theorem spells_self (plain : ∀ w ∈ word, IsPlainCapital w) : Spells word word := by
  refine List.forall₂_same.2 fun w mem => ?_
  rw [(plain w mem).orbit]
  exact List.mem_cons_self

/-- A character that is no part of a word is no more than the start of the text. -/
theorem isBoundary_or_iff {before front after : Option Char}
    (free : WordKind.unicode.at front = false) :
    IsBoundary (before.or front) after ↔ IsBoundary before after := by
  cases before with
  | none =>
      change (WordKind.unicode.at front != WordKind.unicode.at after) = true ↔
        (WordKind.unicode.at none != WordKind.unicode.at after) = true
      rw [free]
      rfl
  | some c => rfl

/-- A whole word stays one behind a text that does not end in a character of a word. -/
theorem HoldsWord.behind {front : List Char} (free : WordKind.unicode.at front.getLast? = false)
    (holds : HoldsWord word text) : HoldsWord word (front ++ text) := by
  obtain ⟨before, found, after, rfl, spells, first, last⟩ := holds
  refine ⟨front ++ before, found, after, by simp, spells, ?_, ?_⟩
  · rw [List.getLast?_append, isBoundary_or_iff free]
    exact first
  · rw [List.append_assoc, List.getLast?_append, isBoundary_or_iff free]
    exact last

end TableGateway.Text
