import TableGateway.Text.Slice

/-!
# How short a shortened text is

A cut text keeps its first 497 characters without the blanks at their end, and three dots follow
them. So it has at most 500 characters. A text of 498 or 499 characters is cut as well, and with few
blanks in front of the cut the dots are more than what was dropped.
-/

namespace TableGateway.Text

/-! ## The cut -/

/-- The n-th character starts behind the n characters in front of it. -/
theorem getElem?_located (passed text : List Char) (n : Nat) :
    (located (offsetBehind passed) text)[n]? =
      text[n]?.map fun c => (offsetBehind (passed ++ text.take n), c) := by
  induction text generalizing passed n with
  | nil => rfl
  | cons c rest ih =>
      cases n with
      | zero => simp [located]
      | succ n =>
          have behind := ih (passed ++ [c]) n
          rw [offsetBehind_concat] at behind
          simpa [located] using behind

theorem shortenChars_of_le {text : List Char} (short : text.length ≤ shortLimit) :
    shortenChars text = text :=
  if_pos short

theorem shortenChars_of_lt {text : List Char} (long : shortLimit < text.length) :
    shortenChars text = trimEnd (text.take shortLimit) ++ ['.', '.', '.'] :=
  if_neg (Nat.not_le.2 long)

/-- The offset of the cut is a boundary of characters, so there is a slice up to it. -/
theorem shortenAt?_eq (text : String) : shortenAt? text = some (shorten text) := by
  have place := getElem?_located [] text.toList shortLimit
  rw [List.nil_append, offsetBehind_nil] at place
  rw [shortenAt?, place, shorten]
  by_cases long : shortLimit < text.toList.length
  · have slice := slice?_append [] (text.toList.take shortLimit) (text.toList.drop shortLimit)
    rw [List.nil_append, List.take_append_drop, String.ofList_toList, offsetBehind_nil] at slice
    rw [List.getElem?_eq_getElem long, Option.map_some, shortenChars_of_lt long]
    simp only [slice, Option.map_some, String.toList_ofList, String.ofList_append]
  · have short := Nat.le_of_not_lt long
    rw [List.getElem?_eq_none short, Option.map_none, shortenChars_of_le short,
      String.ofList_toList]

/-! ## The length -/

/-- A text that is cut: what is kept, the blanks in front of the cut, and what is behind it. -/
structure IsCut (text kept blanks behind : List Char) : Prop where
  parts : text = kept ++ blanks ++ behind
  limit : (kept ++ blanks).length = shortLimit
  blank : ∀ c ∈ blanks, isBlank c = true
  solid : ∀ c, kept.getLast? = some c → isBlank c = false
  more : behind ≠ []
  shown : shortenChars text = kept ++ ['.', '.', '.']

theorem exists_isCut {text : List Char} (long : shortLimit < text.length) :
    ∃ kept blanks behind, IsCut text kept blanks behind := by
  obtain ⟨blanks, whole, blank⟩ := exists_trimEnd_append (text.take shortLimit)
  refine ⟨trimEnd (text.take shortLimit), blanks, text.drop shortLimit, ?_, ?_, blank, ?_, ?_,
    shortenChars_of_lt long⟩
  · rw [← whole, List.take_append_drop]
  · rw [← whole, List.length_take, Nat.min_eq_left (Nat.le_of_lt long)]
  · exact getLast?_dropEndWhile isBlank (text.take shortLimit)
  · rw [← List.length_pos_iff, List.length_drop]
    omega

theorem IsCut.length_add {text kept blanks behind : List Char}
    (cut : IsCut text kept blanks behind) :
    (shortenChars text).length + blanks.length = 500 := by
  have limit : (kept ++ blanks).length = 497 := cut.limit
  rw [List.length_append] at limit
  rw [cut.shown, List.length_append, List.length_cons, List.length_cons, List.length_singleton]
  omega

/-- The dots lengthen a text from which fewer characters are dropped than there are dots. -/
theorem IsCut.length_lt_iff {text kept blanks behind : List Char}
    (cut : IsCut text kept blanks behind) :
    text.length < (shortenChars text).length ↔ (blanks ++ behind).length < 3 := by
  rw [cut.shown, cut.parts]
  simp only [List.length_append, List.length_cons, List.length_nil]
  omega

theorem length_shortenChars_le (text : List Char) : (shortenChars text).length ≤ 500 := by
  by_cases long : shortLimit < text.length
  · obtain ⟨kept, blanks, behind, cut⟩ := exists_isCut long
    have sum := cut.length_add
    omega
  · have short : text.length ≤ 497 := Nat.le_of_not_lt long
    rw [shortenChars_of_le short]
    omega

theorem length_shorten (text : String) :
    (shorten text).length = (shortenChars text.toList).length := by
  rw [shorten, String.length_ofList]

/-- A text of at most 497 characters stays as it is. Every other one is cut at a boundary of
characters: the first 497 without the blanks at their end are kept, and three dots follow. What is
shown has at most 500 characters. It has more than the text exactly when fewer than three
characters are dropped, and so for no text but some of 498 or 499 characters. -/
theorem shortens_unless_few_dropped (text : String) :
    shortenAt? text = some (shorten text) ∧
    (shorten text).length ≤ 500 ∧
    (text.length ≤ 497 → shorten text = text) ∧
    (497 < text.length → ∃ kept blanks behind, IsCut text.toList kept blanks behind ∧
      (text.length < (shorten text).length ↔ (blanks ++ behind).length < 3)) ∧
    (text.length < (shorten text).length → text.length = 498 ∨ text.length = 499) := by
  have most := length_shortenChars_le text.toList
  have size : text.length = text.toList.length := (String.length_toList).symm
  refine ⟨shortenAt?_eq text, by rwa [length_shorten], ?_, ?_, ?_⟩
  · intro short
    rw [shorten, shortenChars_of_le (by rwa [← size]), String.ofList_toList]
  · intro long
    rw [size] at long
    obtain ⟨kept, blanks, behind, cut⟩ := exists_isCut long
    refine ⟨kept, blanks, behind, cut, ?_⟩
    rw [length_shorten, size]
    exact cut.length_lt_iff
  · intro longer
    rw [length_shorten] at longer
    have long : shortLimit < text.toList.length := by
      refine Nat.lt_of_not_le fun short => ?_
      rw [shortenChars_of_le short] at longer
      omega
    have : 497 < text.toList.length := long
    omega

/-- A text of 498 letters is shown with 500 characters. -/
theorem exists_lengthened : ¬∀ text : String, (shorten text).length ≤ text.length := by
  intro shortens
  have bound := shortens (String.ofList (List.replicate 498 'x'))
  have long : shortLimit < (List.replicate 498 'x').length := by
    rw [List.length_replicate]
    decide
  obtain ⟨kept, blanks, behind, cut⟩ := exists_isCut long
  have bare : blanks = [] := by
    refine List.eq_nil_iff_forall_not_mem.2 fun c mem => ?_
    have letter : c ∈ List.replicate 498 'x' := by
      rw [cut.parts]
      exact List.mem_append_left _ (List.mem_append_right _ mem)
    rw [List.eq_of_mem_replicate letter] at mem
    exact absurd (cut.blank 'x' mem) (by decide)
  have sum := cut.length_add
  rw [bare, List.length_nil, Nat.add_zero] at sum
  rw [length_shorten, String.toList_ofList, sum, String.length_ofList, List.length_replicate] at bound
  exact absurd bound (by decide)

end TableGateway.Text
