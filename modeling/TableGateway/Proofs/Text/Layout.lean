import Mathlib.Data.List.TakeWhile
import TableGateway.Condition.Operator

/-!
# Words between blanks

A text lays out the words that it holds: blanks may stand around them, and at least one stands
between every two. It lays out exactly one sequence of words, which is what splitting finds. The
same words with single spaces between them are the text with every run of blanks collapsed and the
ends trimmed.
-/

namespace TableGateway.Text

open Operator (joinWords)

/-- Nothing but blanks, if anything. -/
def IsGap (text : List Char) : Prop :=
  ∀ c ∈ text, isBlank c = true

/-- Some characters, none of them blank. -/
structure IsSolid (word : List Char) : Prop where
  ne_nil : word ≠ []
  solid : ∀ c ∈ word, isBlank c = false

/-- A text is some words in a row, each with a gap in front of it and behind it. Where a further
word follows, the gap in front of that one is not empty. -/
inductive LaysOut : List (List Char) → List Char → Prop where
  | gap {text : List Char} (blank : IsGap text) : LaysOut [] text
  | word (gap word : List Char) {rest : List Char} {words : List (List Char)} (blank : IsGap gap)
      (solid : IsSolid word) (ends : startsInWord rest = false) (more : LaysOut words rest) :
      LaysOut (word :: words) (gap ++ (word ++ rest))

/-- A single space in place of every run of blanks. -/
def collapse : List Char → List Char
  | [] => []
  | c :: rest =>
      if isBlank c then if rest.head?.any isBlank then collapse rest else ' ' :: collapse rest
      else c :: collapse rest

/-! ## Splitting finds the words -/

theorem LaysOut.behind {c : Char} (blank : isBlank c = true) {words : List (List Char)}
    {text : List Char} (lays : LaysOut words text) : LaysOut words (c :: text) := by
  cases lays with
  | gap all => exact .gap (List.forall_mem_cons.2 ⟨blank, all⟩)
  | word gap word all solid ends more =>
      exact .word (c :: gap) word (List.forall_mem_cons.2 ⟨blank, all⟩) solid ends more

/-- A character in front of a text that starts in a word is part of that word. -/
theorem LaysOut.grow {c : Char} (solid : isBlank c = false) {words : List (List Char)}
    {text : List Char} (starts : startsInWord text = true) (lays : LaysOut words text) :
    LaysOut (prependChar c true words) (c :: text) := by
  cases lays with
  | gap blank =>
      cases text with
      | nil => cases starts
      | cons d text => simp [startsInWord, blank d] at starts
  | word gap word blank whole ends more =>
      cases gap with
      | nil =>
          refine .word [] (c :: word) nofun ⟨nofun, ?_⟩ ends more
          exact List.forall_mem_cons.2 ⟨solid, whole.solid⟩
      | cons d gap => simp [startsInWord, blank d] at starts

theorem prependChar_false (c : Char) (words : List (List Char)) :
    prependChar c false words = [c] :: words := by
  cases words <;> rfl

theorem laysOut_words (text : List Char) : LaysOut (words text) text := by
  induction text with
  | nil => exact .gap nofun
  | cons c rest ih =>
      rw [words]
      by_cases blank : isBlank c = true
      · rw [if_pos blank]
        exact ih.behind blank
      · rw [if_neg blank]
        have solid : isBlank c = false := Bool.eq_false_iff.2 blank
        cases starts : startsInWord rest with
        | true => exact ih.grow solid starts
        | false =>
            rw [prependChar_false]
            refine .word [] [c] nofun ⟨nofun, ?_⟩ starts ih
            simpa using solid

theorem words_gap_append {gap : List Char} (blank : IsGap gap) (text : List Char) :
    words (gap ++ text) = words text := by
  induction gap with
  | nil => rfl
  | cons c gap ih =>
      obtain ⟨first, others⟩ := List.forall_mem_cons.1 blank
      rw [List.cons_append, words, if_pos first, ih others]

theorem words_append {word rest : List Char} (solid : IsSolid word)
    (ends : startsInWord rest = false) : words (word ++ rest) = word :: words rest := by
  obtain ⟨ne_nil, solid⟩ := solid
  induction word with
  | nil => exact absurd rfl ne_nil
  | cons c word ih =>
      obtain ⟨first, others⟩ := List.forall_mem_cons.1 solid
      rw [List.cons_append, words, if_neg (Bool.eq_false_iff.1 first)]
      cases word with
      | nil =>
          rw [List.nil_append, ends]
          exact prependChar_false c (words rest)
      | cons d word =>
          have starts : startsInWord (d :: word ++ rest) = true := by
            simp [startsInWord, others d List.mem_cons_self]
          rw [ih nofun others, starts]
          rfl

/-- A text lays out the words that splitting finds, and no others. -/
theorem laysOut_iff {ws : List (List Char)} {text : List Char} :
    LaysOut ws text ↔ words text = ws := by
  constructor
  · intro lays
    induction lays with
    | gap blank =>
        have none := words_gap_append blank []
        rwa [List.append_nil] at none
    | word gap word blank solid ends more ih =>
        rw [words_gap_append blank, words_append solid ends, ih]
  · rintro rfl
    exact laysOut_words text

theorem LaysOut.solid {ws : List (List Char)} {text : List Char} (lays : LaysOut ws text) :
    ∀ word ∈ ws, IsSolid word := by
  induction lays with
  | gap blank => exact nofun
  | word gap word blank solid ends more ih => exact List.forall_mem_cons.2 ⟨solid, ih⟩

theorem laysOut_joinWords {ws : List (List Char)} (solid : ∀ word ∈ ws, IsSolid word) :
    LaysOut ws (joinWords ws) := by
  induction ws with
  | nil => exact .gap nofun
  | cons word ws ih =>
      obtain ⟨first, others⟩ := List.forall_mem_cons.1 solid
      cases ws with
      | nil =>
          have last : LaysOut [] [] := .gap nofun
          simpa [joinWords] using LaysOut.word [] word nofun first rfl last
      | cons next ws => exact .word [] word nofun first rfl ((ih others).behind rfl)

/-! ## Collapsing joins the words -/

theorem collapse_gap {gap : List Char} (blank : IsGap gap) : IsGap (collapse gap) := by
  induction gap with
  | nil => exact nofun
  | cons c gap ih =>
      obtain ⟨first, others⟩ := List.forall_mem_cons.1 blank
      rw [collapse, if_pos first]
      split
      · exact ih others
      · exact List.forall_mem_cons.2 ⟨rfl, ih others⟩

theorem collapse_gap_append {gap text : List Char} (blank : IsGap gap) (some_gap : gap ≠ [])
    (starts : startsInWord text = true) : collapse (gap ++ text) = ' ' :: collapse text := by
  induction gap with
  | nil => exact absurd rfl some_gap
  | cons c gap ih =>
      obtain ⟨first, others⟩ := List.forall_mem_cons.1 blank
      rw [List.cons_append, collapse, if_pos first]
      cases gap with
      | nil =>
          have solid : ¬text.head?.any isBlank = true := by
            cases text with
            | nil => simp
            | cons d text => simpa [startsInWord] using starts
          rw [List.nil_append, if_neg solid]
      | cons d gap =>
          have next : (d :: gap ++ text).head?.any isBlank = true := by
            simpa using others d List.mem_cons_self
          rw [if_pos next, ih others (List.cons_ne_nil d gap)]

theorem collapse_word_append {word : List Char} (solid : ∀ c ∈ word, isBlank c = false)
    (rest : List Char) : collapse (word ++ rest) = word ++ collapse rest := by
  induction word with
  | nil => rfl
  | cons c word ih =>
      obtain ⟨first, others⟩ := List.forall_mem_cons.1 solid
      rw [List.cons_append, collapse, if_neg (Bool.eq_false_iff.1 first), ih others]
      rfl

theorem trimEnd_gap {gap : List Char} (blank : IsGap gap) : trimEnd gap = [] := by
  induction gap with
  | nil => rfl
  | cons c gap ih =>
      obtain ⟨first, others⟩ := List.forall_mem_cons.1 blank
      have rest := ih others
      rw [trimEnd] at rest ⊢
      simp [dropEndWhile, rest, first]

/-- Where something is left of the end of a text, all in front of it is left too. -/
theorem trimEnd_append {text : List Char} (left : trimEnd text ≠ []) (front : List Char) :
    trimEnd (front ++ text) = front ++ trimEnd text := by
  induction front with
  | nil => rfl
  | cons c front ih =>
      have kept : front ++ trimEnd text ≠ [] := by simp [left]
      rw [trimEnd] at ih kept ⊢
      rw [List.cons_append, dropEndWhile, ih]
      split
      · next none => exact absurd none kept
      · rfl

theorem trimEnd_word_append {word gap : List Char} (solid : IsSolid word) (blank : IsGap gap) :
    trimEnd (word ++ gap) = word := by
  -- the last character of the word stops the trimming, whatever stands in front of it
  have last : trimEnd (word.getLast solid.ne_nil :: gap) = [word.getLast solid.ne_nil] := by
    have none := trimEnd_gap blank
    rw [trimEnd] at none ⊢
    simp [dropEndWhile, none, solid.solid _ (List.getLast_mem solid.ne_nil)]
  have parts := List.dropLast_concat_getLast solid.ne_nil
  have whole := trimEnd_append (last ▸ List.cons_ne_nil _ _) word.dropLast
  rwa [last, parts, List.append_cons, parts] at whole

theorem trimStart_append (gap : List Char) {word : List Char} (blank : IsGap gap)
    (solid : IsSolid word) (rest : List Char) :
    trimStart (gap ++ (word ++ rest)) = word ++ rest := by
  obtain ⟨c, more, rfl⟩ := List.exists_cons_of_ne_nil solid.ne_nil
  rw [trimStart, List.dropWhile_append_of_pos blank, List.cons_append, List.dropWhile_cons_of_neg]
  exact Bool.eq_false_iff.1 (solid.solid c List.mem_cons_self)

/-- A word between gaps is what is left of the text when its ends are trimmed. -/
theorem trim_append {before word after : List Char} (front : IsGap before) (solid : IsSolid word)
    (back : IsGap after) : trim (before ++ (word ++ after)) = word := by
  rw [trim, trimStart_append before front solid, trimEnd_word_append solid back]

/-- Trimming drops a gap at each end. -/
theorem exists_trim_append (text : List Char) :
    ∃ before after, text = before ++ (trim text ++ after) ∧ IsGap before ∧ IsGap after := by
  obtain ⟨after, parts, back⟩ := exists_trimEnd_append (trimStart text)
  refine ⟨text.takeWhile isBlank, after, ?_, List.all_eq_true.1 List.all_takeWhile, back⟩
  rw [trim, ← parts]
  exact List.takeWhile_append_dropWhile.symm

theorem joinWords_cons_ne_nil {word : List Char} (solid : IsSolid word) (ws : List (List Char)) :
    joinWords (word :: ws) ≠ [] := by
  cases ws <;> simp [joinWords, solid.ne_nil]

theorem startsInWord_append {word : List Char} (solid : IsSolid word) (rest : List Char) :
    startsInWord (word ++ rest) = true := by
  obtain ⟨c, more, rfl⟩ := List.exists_cons_of_ne_nil solid.ne_nil
  simp [startsInWord, solid.solid c List.mem_cons_self]

/-- Behind a word, the words of the rest follow with single spaces in front of them. -/
theorem trimEnd_collapse {ws : List (List Char)} {rest : List Char} (lays : LaysOut ws rest)
    (ends : startsInWord rest = false) {word : List Char} (solid : IsSolid word) :
    trimEnd (word ++ collapse rest) = joinWords (word :: ws) := by
  induction lays generalizing word with
  | gap blank => exact trimEnd_word_append solid (collapse_gap blank)
  | @word gap next rest ws blank next_solid next_ends more ih =>
      have some_gap : gap ≠ [] := by
        rintro rfl
        rw [List.nil_append, startsInWord_append next_solid] at ends
        cases ends
      have behind := ih next_ends next_solid
      have left : trimEnd (next ++ collapse rest) ≠ [] :=
        behind ▸ joinWords_cons_ne_nil next_solid ws
      rw [collapse_gap_append blank some_gap (startsInWord_append next_solid rest),
        collapse_word_append next_solid.solid, List.append_cons, trimEnd_append left, behind,
        ← List.append_cons]
      rfl

/-- The words of a text with single spaces between them are the text with its runs of blanks
collapsed and its ends trimmed. -/
theorem trim_collapse (text : List Char) : trim (collapse text) = joinWords (words text) := by
  have lays := laysOut_words text
  generalize words text = ws at lays ⊢
  cases lays with
  | gap blank =>
      have gone : trimStart (collapse text) = [] :=
        List.dropWhile_eq_nil_iff.2 (collapse_gap blank)
      rw [trim, gone]
      rfl
  | @word gap word rest ws blank solid ends more =>
      rw [← trimEnd_collapse more ends solid, trim]
      by_cases some_gap : gap = []
      · rw [some_gap, List.nil_append, collapse_word_append solid.solid]
        exact congrArg trimEnd (trimStart_append [] nofun solid _)
      · rw [collapse_gap_append blank some_gap (startsInWord_append solid rest),
          collapse_word_append solid.solid]
        exact congrArg trimEnd (trimStart_append [' '] (by simp [IsGap, isBlank]) solid _)

end TableGateway.Text
