import TableGateway.Text.Substitute

/-!
# Substitution by slices

A text is copied slice by slice, with the replacement in place of each occurrence of a character.
Between two characters the copying stands at the boundary behind the last occurrence: what is in
front of it is written, what is behind it has no occurrence yet. So every slice lies between two
boundaries, the copying never stops, and what it appends is the text with every character
substituted on its own.
-/

namespace TableGateway.Text

open String (Pos)

/-! ## Character by character -/

theorem substitute_eq_flatMap (search : Char) (replacement text : List Char) :
    substitute search replacement text =
      text.flatMap fun c => if c = search then replacement else [c] := by
  induction text with
  | nil => rfl
  | cons c rest ih => rw [substitute, ih, List.flatMap_cons]

theorem substitute_of_not_mem {search : Char} (replacement : List Char) {text : List Char}
    (plain : search ∉ text) : substitute search replacement text = text := by
  induction text with
  | nil => rfl
  | cons c rest ih =>
      obtain ⟨other, behind⟩ := List.ne_and_not_mem_of_not_mem_cons plain
      rw [substitute, if_neg other.symm, ih behind, List.singleton_append]

/-- Writes every doubled `mark` once. -/
def undouble (mark : Char) : List Char → List Char
  | [] => []
  | [c] => [c]
  | c :: d :: rest =>
      if c = mark ∧ d = mark then mark :: undouble mark rest else c :: undouble mark (d :: rest)

theorem undouble_cons_of_ne {mark c : Char} (other : c ≠ mark) (rest : List Char) :
    undouble mark (c :: rest) = c :: undouble mark rest := by
  cases rest with
  | nil => rfl
  | cons d rest => rw [undouble, if_neg fun both => other both.1]

theorem undouble_double (mark : Char) (text : List Char) :
    undouble mark (double mark text) = text := by
  induction text with
  | nil => rfl
  | cons c rest ih =>
      rw [double] at ih ⊢
      by_cases same : c = mark
      · subst same
        rw [substitute, if_pos rfl, List.cons_append, List.cons_append, List.nil_append, undouble,
          if_pos ⟨rfl, rfl⟩, ih]
      · rw [substitute, if_neg same, List.singleton_append, undouble_cons_of_ne same, ih]

/-! ## Slice by slice -/

namespace Copying

variable {search : Char} {replacement out : String} {passed : List Char} {state : Copying}

/-- Of the characters that were passed, those in front of the position stand substituted behind
`out`, and no occurrence is among the others. -/
def Keeps (search : Char) (replacement out : String) (passed : List Char) (state : Copying) :
    Prop :=
  ∃ written pending, passed = written ++ pending ∧ search ∉ pending ∧
    state.position = offsetBehind written ∧
    state.out = out ++ String.ofList (substitute search replacement.toList written)

theorem keeps_start (search : Char) (replacement out : String) :
    Keeps search replacement out [] ⟨0, out⟩ :=
  ⟨[], [], rfl, List.not_mem_nil, rfl, by simp⟩

/-- Passing an occurrence copies what is pending, passing another character adds it. -/
theorem Keeps.step (keeps : state.Keeps search replacement out passed) (c : Char)
    (rest : List Char) :
    ∃ next, state.step? (String.ofList (passed ++ c :: rest)) search replacement
        (offsetBehind passed, c) = some next ∧
      next.Keeps search replacement out (passed ++ [c]) := by
  obtain ⟨written, pending, rfl, plain, position_eq, out_eq⟩ := keeps
  by_cases found : c = search
  · subst found
    have piece := slice?_append written pending (c :: rest)
    refine ⟨⟨offsetBehind (written ++ pending) + c,
      state.out ++ String.ofList pending ++ replacement⟩, ?_, ?_⟩
    · rw [step?, if_pos rfl, position_eq, piece]
      rfl
    · refine ⟨written ++ pending ++ [c], [], (List.append_nil _).symm, List.not_mem_nil,
        (offsetBehind_concat _ _).symm, ?_⟩
      simp [out_eq, substitute_append, substitute_of_not_mem _ plain, substitute,
        String.append_assoc]
  · refine ⟨state, if_neg found, written, pending ++ [c], List.append_assoc _ _ _, ?_,
      position_eq, out_eq⟩
    simpa [plain] using fun same => found same.symm

theorem Keeps.run (keeps : state.Keeps search replacement out passed) (more rest : List Char) :
    ∃ next, (located (offsetBehind passed) more).foldlM
        (step? (String.ofList (passed ++ more ++ rest)) search replacement) state = some next ∧
      next.Keeps search replacement out (passed ++ more) := by
  induction more generalizing passed state with
  | nil => exact ⟨state, rfl, by rwa [List.append_nil]⟩
  | cons c more ih =>
      obtain ⟨middle, stepped, kept⟩ := keeps.step c (more ++ rest)
      obtain ⟨last, ran, ends⟩ := ih kept
      have whole : passed ++ [c] ++ more = passed ++ c :: more := by simp
      rw [whole, offsetBehind_concat] at ran
      rw [whole] at ends
      refine ⟨last, ?_, ends⟩
      rw [← List.cons_append, ← List.append_assoc] at stepped
      rw [located, List.foldlM_cons, stepped]
      exact ran

/-- Behind the last character the pending ones are the last slice. -/
theorem Keeps.finish (keeps : state.Keeps search replacement out passed) :
    state.finish? (String.ofList passed) =
      some (out ++ String.ofList (substitute search replacement.toList passed)) := by
  obtain ⟨written, pending, rfl, plain, position_eq, out_eq⟩ := keeps
  have piece := slice?_append written pending []
  rw [List.append_nil] at piece
  rw [finish?, position_eq]
  change (slice? _ _ (offsetBehind (written ++ pending))).map _ = _
  rw [piece, substitute_append, substitute_of_not_mem _ plain]
  simp [out_eq, String.append_assoc]

/-- The position is a boundary and not behind the character that comes next. -/
theorem Keeps.bounds (keeps : state.Keeps search replacement out passed) (rest : List Char) :
    state.position.IsValid (String.ofList (passed ++ rest)) ∧
      (offsetBehind passed).IsValid (String.ofList (passed ++ rest)) ∧
      state.position ≤ offsetBehind passed := by
  have boundary := isValid_offsetBehind passed rest
  obtain ⟨written, pending, rfl, -, position_eq, -⟩ := keeps
  rw [position_eq]
  refine ⟨?_, boundary, offsetBehind_le written pending⟩
  rw [List.append_assoc]
  exact isValid_offsetBehind written (pending ++ rest)

end Copying

/-- Behind every front part of a text the copying stands at a state that keeps what was passed. -/
theorem exists_copying (out : String) (search : Char) (replacement : String)
    (passed rest : List Char) :
    ∃ state, copying? (String.ofList (passed ++ rest)) search replacement out passed = some state ∧
      state.Keeps search replacement out passed :=
  (Copying.keeps_start search replacement out).run passed rest

theorem appendSubstituted?_eq (out text : String) (search : Char) (replacement : String) :
    appendSubstituted? out text search replacement =
      some (out ++ String.ofList (substitute search replacement.toList text.toList)) := by
  obtain ⟨state, ran, keeps⟩ := exists_copying out search replacement text.toList []
  have ends := keeps.finish
  rw [List.append_nil, String.ofList_toList] at ran
  rw [String.ofList_toList] at ends
  rw [appendSubstituted?, ran, Option.bind_some, ends]

/-- What is appended for a text is the text with `replacement` for every `search` and every other
character as it is, whatever the character, the replacement and the output in front. No slice fails:
before every character, and behind the last one, both ends of the slice that may be copied there are
boundaries of characters and do not run backwards. A text written with doubled characters is found
again by writing each doubled one once. -/
theorem substitutes_by_slices (out text : String) (search : Char) (replacement : String) :
    ∃ appended : String,
      appendSubstituted? out text search replacement = some (out ++ appended) ∧
      appended.toList = (text.toList.flatMap fun c =>
        if c = search then replacement.toList else [c]) ∧
      appended.toList = substitute search replacement.toList text.toList ∧
      (∀ passed rest, text.toList = passed ++ rest →
        ∃ state, copying? text search replacement out passed = some state ∧
          state.position.IsValid text ∧ (offsetBehind passed).IsValid text ∧
          state.position ≤ offsetBehind passed) ∧
      (replacement.toList = [search, search] → undouble search appended.toList = text.toList) := by
  refine ⟨String.ofList (substitute search replacement.toList text.toList),
    appendSubstituted?_eq out text search replacement, ?_, String.toList_ofList, ?_, ?_⟩
  · rw [String.toList_ofList, substitute_eq_flatMap]
  · intro passed rest parts
    obtain ⟨state, ran, keeps⟩ := exists_copying out search replacement passed rest
    rw [← parts, String.ofList_toList] at ran
    have bounds := keeps.bounds rest
    rw [← parts, String.ofList_toList] at bounds
    exact ⟨state, ran, bounds⟩
  · intro doubled
    rw [String.toList_ofList, doubled]
    exact undouble_double search text.toList

end TableGateway.Text
