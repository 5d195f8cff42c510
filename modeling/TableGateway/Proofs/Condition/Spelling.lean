import TableGateway.Proofs.Condition.Parts
import TableGateway.Proofs.Text.Layout
import TableGateway.Sql.Clause

/-!
# Spellings of operators

The operator is the one part of a clause that is written as it stands. A text is read as an operator
exactly when it is the spelling of the operator but for ASCII case and for blanks around and between
its words, and every other text is refused. What is written is therefore never anything that the
caller did not spell out.
-/

namespace TableGateway

open Sql (Dialect clauseText identifier operand)
open Text (IsGap IsSolid LaysOut collapse exists_trim_append isAlpha_iff_toNat isBlank
  isBlank_of_ascii laysOut_iff laysOut_joinWords laysOut_words trim trim_append trim_collapse
  upperAscii)

namespace Operator

/-- A text without its layout: its runs of blanks are single spaces, its ends are trimmed and its
ASCII letters are capital. -/
def squeezed (text : String) : List Char :=
  upperAscii (trim (collapse text.toList))

def words (o : Operator) : List (List Char) :=
  Text.words o.spelling.toList

/-- A text lays out the words of an operator, in whatever case. -/
def Respells (o : Operator) (text : List Char) : Prop :=
  ∃ found, LaysOut found text ∧ found.map upperAscii = o.words

/-! ## Case and words -/

theorem isBlank_of_isAlpha {c : Char} (letter : c.isAlpha = true) : isBlank c = false := by
  have bounds := isAlpha_iff_toNat.1 letter
  exact isBlank_of_ascii (by omega) (by omega)

theorem isAlpha_toUpper {c : Char} (small : c.isLower = true) : c.toUpper.isAlpha = true := by
  unfold Char.isLower at small
  rw [Bool.and_eq_true, decide_eq_true_eq, decide_eq_true_eq] at small
  rw [isAlpha_iff_toNat]
  unfold Char.toUpper
  rw [dif_pos small]
  simp [UInt32.le_iff_toNat_le, UInt32.toNat_add] at small ⊢
  omega

theorem isBlank_toUpper (c : Char) : isBlank c.toUpper = isBlank c := by
  by_cases small : c.isLower = true
  · have letter : c.isAlpha = true := Bool.or_eq_true_iff.2 (.inr small)
    rw [isBlank_of_isAlpha letter, isBlank_of_isAlpha (isAlpha_toUpper small)]
  · unfold Char.isLower at small
    have fixed : c.toUpper = c := dif_neg (by simpa using small)
    rw [fixed]

theorem isSolid_upperAscii {word : List Char} (solid : IsSolid word) :
    IsSolid (upperAscii word) := by
  refine ⟨by simpa [upperAscii] using solid.ne_nil, ?_⟩
  intro c mem
  obtain ⟨d, found, rfl⟩ := List.mem_map.1 mem
  rw [isBlank_toUpper]
  exact solid.solid d found

theorem upperAscii_joinWords (ws : List (List Char)) :
    upperAscii (joinWords ws) = joinWords (ws.map upperAscii) := by
  induction ws with
  | nil => rfl
  | cons word ws ih =>
      cases ws with
      | nil => rfl
      | cons next ws =>
          have apart : upperAscii (word ++ ' ' :: joinWords (next :: ws)) =
              upperAscii word ++ ' ' :: upperAscii (joinWords (next :: ws)) := List.map_append
          exact apart.trans (by rw [ih]; rfl)

theorem joinWords_words (o : Operator) : joinWords o.words = o.spelling.toList := by
  cases o <;> rfl

/-- A text without its layout is a spelling exactly when its words are those of the operator. -/
theorem squeezed_eq_spelling_iff {text : String} {o : Operator} :
    squeezed text = o.spelling.toList ↔ (Text.words text.toList).map upperAscii = o.words := by
  rw [squeezed, trim_collapse, upperAscii_joinWords, ← joinWords_words]
  constructor
  · intro same
    have solid : ∀ word ∈ (Text.words text.toList).map upperAscii, IsSolid word := by
      intro word mem
      obtain ⟨found, stands, rfl⟩ := List.mem_map.1 mem
      exact isSolid_upperAscii ((laysOut_words text.toList).solid found stands)
    have found := laysOut_iff.1 (laysOut_joinWords solid)
    rw [← found, same, joinWords_words]
    rfl
  · intro same
    rw [same]

theorem respells_iff {text : List Char} {o : Operator} :
    o.Respells text ↔ (Text.words text).map upperAscii = o.words := by
  constructor
  · rintro ⟨found, lays, same⟩
    rwa [laysOut_iff.1 lays]
  · intro same
    exact ⟨_, laysOut_words text, same⟩

/-! ## Reading -/

theorem ofSpelling?_eq_some_iff {s : String} {o : Operator} :
    ofSpelling? s = some o ↔ s = o.spelling := by
  constructor
  · intro found
    unfold ofSpelling? at found
    split at found <;> cases found <;> rfl
  · rintro rfl
    exact ofSpelling?_spelling o

theorem read?_eq_some_iff {text : String} {o : Operator} :
    read? text = some o ↔ squeezed text = o.spelling.toList := by
  rw [read?, ofSpelling?_eq_some_iff, normalize, ← trim_collapse, ← squeezed]
  constructor
  · intro same
    rw [← same, String.toList_ofList]
  · intro same
    rw [same, String.ofList_toList]

end Operator

/-- A text is a conjunction exactly when it is `AND` or `OR`, in whatever case, between blanks. -/
theorem Conjunction.read?_eq_some_iff_between {text : String} {c : Conjunction} :
    read? text = some c ↔ ∃ before word after, text.toList = before ++ (word ++ after) ∧
      IsGap before ∧ IsGap after ∧ upperAscii word = c.spelling.toList := by
  rw [read?_eq_some_iff]
  constructor
  · intro same
    obtain ⟨before, after, parts, front, back⟩ := exists_trim_append text.toList
    exact ⟨before, _, after, parts, front, back, same⟩
  · rintro ⟨before, word, after, parts, front, back, same⟩
    have capital : IsSolid (upperAscii word) := by
      rw [same]
      cases c <;> constructor <;> simp [Conjunction.spelling, isBlank]
    have solid : IsSolid word := by
      refine ⟨fun empty => capital.ne_nil (congrArg upperAscii empty), fun d mem => ?_⟩
      rw [← Operator.isBlank_toUpper]
      exact capital.solid _ (List.mem_map_of_mem mem)
    rw [parts, trim_append front solid back, same]

namespace Predicate

theorem readOperator_eq_ok_iff {text : String} {o : Operator} :
    readOperator text = .ok o ↔ Operator.squeezed text = o.spelling.toList := by
  rw [readOperator_eq, Slot.read_eq_ok_iff]
  exact Operator.read?_eq_some_iff

theorem readOperator_eq_error_iff {text : String} {f : Failure} :
    readOperator text = .error f ↔
      (∀ o : Operator, Operator.squeezed text ≠ o.spelling.toList) ∧
        f = .invalidParameter (.unsupportedOperator text) := by
  rw [readOperator]
  cases read : Operator.read? text with
  | some o =>
      constructor
      · intro refused
        cases refused
      · rintro ⟨unread, -⟩
        exact absurd (Operator.read?_eq_some_iff.1 read) (unread o)
  | none =>
      have unread : ∀ o : Operator, Operator.squeezed text ≠ o.spelling.toList := by
        intro o same
        rw [Operator.read?_eq_some_iff.2 same] at read
        cases read
      simp [unread, eq_comm]

/-- A text is read as an operator exactly when its blanks collapsed, its ends trimmed and its ASCII
letters made capital leave the spelling of the operator; just the texts are read that lay out the
words of the operator, in any case and between any blanks. Every other text is refused as an
unsupported operator. What a clause has for its operator is the text that was read, without its
layout. -/
theorem reads_spellings (text : String) :
    (∀ o, readOperator text = .ok o ↔ Operator.squeezed text = o.spelling.toList) ∧
    (∀ o, readOperator text = .ok o ↔ o.Respells text.toList) ∧
    (∀ f, readOperator text = .error f ↔
      (∀ o : Operator, Operator.squeezed text ≠ o.spelling.toList) ∧
        f = .invalidParameter (.unsupportedOperator text)) ∧
    ∀ dialect field predicate, readOperator text = .ok predicate.operator →
      clauseText dialect (field, predicate) =
        '(' :: identifier dialect field.toList ++ ' ' :: Operator.squeezed text ++
          ' ' :: operand dialect predicate ++ [')'] := by
  refine ⟨fun o => readOperator_eq_ok_iff, ?_, fun f => readOperator_eq_error_iff, ?_⟩
  · intro o
    rw [readOperator_eq_ok_iff, Operator.squeezed_eq_spelling_iff, Operator.respells_iff]
  · intro dialect field predicate read
    rw [clauseText, readOperator_eq_ok_iff.1 read]

/-- An ideographic space in front, a line break between the words and letters of both cases: the
text is read, and the clause has the operator in capital letters with one space. -/
theorem reads_spellings_not_like :
    let text := "\u3000nOt \n lIkE\u00a0"
    let predicate := compare .notLike (.varchar "Ada") .or
    readOperator text = .ok .notLike ∧ Operator.Respells .notLike text.toList ∧
      Operator.squeezed text = "NOT LIKE".toList ∧
      clauseText .generic ("name", predicate) =
        '(' :: identifier .generic "name".toList ++ ' ' :: Operator.squeezed text ++
          ' ' :: operand .generic predicate ++ [')'] := by
  intro text predicate
  obtain ⟨squeezes, respells, -, writes⟩ := reads_spellings text
  have squeezed : Operator.squeezed text = "NOT LIKE".toList := by decide
  have read := (squeezes .notLike).2 squeezed
  exact ⟨read, (respells .notLike).1 read, squeezed, writes .generic "name" predicate read⟩

/-- Symbols that belong together are not read apart. -/
example : readOperator "< =" = .error (.invalidParameter (.unsupportedOperator "< =")) := by
  rfl

end Predicate

end TableGateway
