/-!
# Endings and blank characters

A text can be rid of the characters of one kind that it ends with. What is left is a front part of
the text that ends with a character of another kind, or nothing.

A character is blank when it has the Unicode property `White_Space`. Trimming drops the blanks at
an end of a text, and the words of a text are its maximal runs of other characters.
-/

namespace TableGateway.Text

/-! ## Endings -/

def dropEndWhile (p : Char → Bool) : List Char → List Char
  | [] => []
  | c :: rest =>
      match dropEndWhile p rest with
      | [] => if p c then [] else [c]
      | kept => c :: kept

@[simp] theorem dropEndWhile_nil (p : Char → Bool) : dropEndWhile p [] = [] := rfl

theorem exists_dropEndWhile_append (p : Char → Bool) (text : List Char) :
    ∃ dropped, text = dropEndWhile p text ++ dropped ∧ ∀ c ∈ dropped, p c = true := by
  induction text with
  | nil => exact ⟨[], rfl, by simp⟩
  | cons c rest ih =>
      obtain ⟨dropped, parts, all⟩ := ih
      unfold dropEndWhile
      split
      · rename_i kept
        rw [kept, List.nil_append] at parts
        by_cases h : p c = true
        · exact ⟨c :: dropped, by simp [h, parts], by simpa [h] using all⟩
        · exact ⟨dropped, by simp [h, parts], all⟩
      · exact ⟨dropped, by simpa using parts, all⟩

theorem getLast?_dropEndWhile (p : Char → Bool) (text : List Char) (c : Char)
    (last : (dropEndWhile p text).getLast? = some c) : p c = false := by
  induction text with
  | nil => simp at last
  | cons d rest ih =>
      unfold dropEndWhile at last
      split at last
      · split at last
        · simp at last
        · next h =>
            simp only [List.getLast?_singleton, Option.some.injEq] at last
            simpa [last] using h
      · next kept nonempty =>
          rw [List.getLast?_cons, List.getLast?_eq_some_getLast nonempty] at last
          exact ih (by simpa [List.getLast?_eq_some_getLast nonempty] using last)

/-! ## Blanks -/

/-- The Unicode property `White_Space`. -/
def isBlank (c : Char) : Bool :=
  ('\t' ≤ c && c ≤ '\r') || c = ' ' || c = '\u0085' || c = '\u00a0' || c = '\u1680' ||
    ('\u2000' ≤ c && c ≤ '\u200a') || c = '\u2028' || c = '\u2029' || c = '\u202f' ||
    c = '\u205f' || c = '\u3000'

theorem isBlank_of_ascii {c : Char} (visible : 32 < c.toNat) (ascii : c.toNat < 128) :
    isBlank c = false := by
  simp [isBlank, Char.le_def, UInt32.le_iff_toNat_le, Char.ext_iff, ← UInt32.toNat_inj]
  omega

def trimStart (text : List Char) : List Char :=
  text.dropWhile isBlank

def trimEnd (text : List Char) : List Char :=
  dropEndWhile isBlank text

def trim (text : List Char) : List Char :=
  trimEnd (trimStart text)

/-- Nothing but blanks, the empty text included. -/
def isAllBlank (text : String) : Bool :=
  text.toList.all isBlank

/-- Adds a character in front of the first word, which it starts when a blank came before. -/
def prependChar (c : Char) (joins : Bool) : List (List Char) → List (List Char)
  | [] => [[c]]
  | word :: more => if joins then (c :: word) :: more else [c] :: word :: more

def startsInWord : List Char → Bool
  | [] => false
  | c :: _ => !isBlank c

/-- The maximal runs of characters that are not blank. -/
def words : List Char → List (List Char)
  | [] => []
  | c :: rest =>
      if isBlank c then words rest else prependChar c (startsInWord rest) (words rest)

/-- Capital letters for the ASCII ones, every other character as it is. -/
def upperAscii (text : List Char) : List Char :=
  text.map Char.toUpper

/-- The letters of `Char.isAlpha` are those of ASCII. -/
theorem isAlpha_iff_toNat {c : Char} :
    c.isAlpha = true ↔ 65 ≤ c.toNat ∧ c.toNat ≤ 90 ∨ 97 ≤ c.toNat ∧ c.toNat ≤ 122 := by
  unfold Char.isAlpha Char.isUpper Char.isLower
  simp [UInt32.le_iff_toNat_le]

/-- Trimming the end keeps a front part of the text, and drops blanks only. -/
theorem exists_trimEnd_append (text : List Char) :
    ∃ blanks, text = trimEnd text ++ blanks ∧ ∀ c ∈ blanks, isBlank c = true :=
  exists_dropEndWhile_append isBlank text

end TableGateway.Text
