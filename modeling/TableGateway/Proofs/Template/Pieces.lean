import TableGateway.Sql.Statement

/-!
# The pieces of a template

A template is read from left to right as text without a question mark and placeholders. Two question
marks in a row are one placeholder for a name, so three are one for a name and one for a literal.
Filling a template keeps its text, and a placeholder gets the value with as many values in front of
it as the placeholder has others in front. So what is written for the pieces in front says nothing
about the pieces behind but how many values are left for them.
-/

namespace TableGateway.Sql

/-- A piece of a template: text without a question mark, or the placeholder of a literal or of a
name. -/
inductive Piece where
  | text (cs : List Char)
  | value
  | name
  deriving DecidableEq

namespace Piece

def spelling : Piece → List Char
  | text cs => cs
  | value => ['?']
  | name => ['?', '?']

def isHole : Piece → Bool
  | text _ => false
  | _ => true

/-- What is written for a piece and the value that is there for it, if one is. -/
def filled (dialect : Dialect) : Piece → Option Value → List Char
  | value, some v => literal dialect v
  | name, some v => valueIdentifier dialect v
  | piece, _ => piece.spelling

def consText (c : Char) : List Piece → List Piece
  | text cs :: behind => text (c :: cs) :: behind
  | behind => text [c] :: behind

end Piece

def holes (pieces : List Piece) : Nat :=
  pieces.countP Piece.isHole

/-- What is written for pieces and values: each piece with the value that has as many others in
front of it as the piece has placeholders. -/
def filledWith (dialect : Dialect) (values : List Value) (pieces : List Piece) : List Char :=
  (pieces.mapIdx fun i piece => piece.filled dialect values[holes (pieces.take i)]?).flatten

/-! ## Splitting -/

/-- A template falls into pieces from left to right: a text runs up to the next question mark, and a
placeholder for a literal is a question mark that no other one follows. -/
inductive Splits : List Char → List Piece → Prop
  | done : Splits [] []
  | text {cs rest : List Char} {behind : List Piece} (some_char : cs ≠ []) (plain : '?' ∉ cs)
      (stops : ∀ c ∈ rest.head?, c = '?') (tail : Splits rest behind) :
      Splits (cs ++ rest) (.text cs :: behind)
  | name {rest : List Char} {behind : List Piece} (tail : Splits rest behind) :
      Splits ('?' :: '?' :: rest) (.name :: behind)
  | value {rest : List Char} {behind : List Piece} (single : rest.head? ≠ some '?')
      (tail : Splits rest behind) : Splits ('?' :: rest) (.value :: behind)

def pieces : List Char → List Piece
  | [] => []
  | '?' :: '?' :: rest => .name :: pieces rest
  | '?' :: rest => .value :: pieces rest
  | c :: rest => Piece.consText c (pieces rest)

theorem pieces_value {rest : List Char} (single : rest.head? ≠ some '?') :
    pieces ('?' :: rest) = .value :: pieces rest := by
  rw [pieces]
  rintro more rfl
  exact single rfl

theorem pieces_cons {c : Char} (plain : c ≠ '?') (rest : List Char) :
    pieces (c :: rest) = Piece.consText c (pieces rest) := by
  rw [pieces]
  · exact fun more same => absurd same plain
  · exact plain

theorem Splits.consText {c : Char} {rest : List Char} {behind : List Piece} (plain : c ≠ '?')
    (splits : Splits rest behind) : Splits (c :: rest) (Piece.consText c behind) := by
  have alone : '?' ∉ [c] := by simpa using plain.symm
  cases splits with
  | done => exact .text (by simp) alone (by simp) .done
  | text some_char plain_text stops tail =>
      exact .text (List.cons_ne_nil _ _) (by simpa using ⟨plain.symm, plain_text⟩) stops tail
  | name tail => exact .text (by simp) alone (by simp) (.name tail)
  | value single tail => exact .text (by simp) alone (by simp) (.value single tail)

theorem splits_pieces (template : List Char) : Splits template (pieces template) := by
  induction template using pieces.induct with
  | case1 => exact .done
  | case2 rest ih => exact .name ih
  | case3 rest other ih =>
      have single : rest.head? ≠ some '?' := by
        intro next
        obtain ⟨more, rfl⟩ := List.head?_eq_some_iff.1 next
        exact other more rfl
      rw [pieces_value single]
      exact .value single ih
  | case4 c rest _ plain ih =>
      rw [pieces_cons plain]
      exact ih.consText plain

theorem pieces_text {cs rest : List Char} (some_char : cs ≠ []) (plain : '?' ∉ cs)
    (stops : ∀ c ∈ rest.head?, c = '?') : pieces (cs ++ rest) = .text cs :: pieces rest := by
  induction cs with
  | nil => exact absurd rfl some_char
  | cons c more ih =>
      obtain ⟨head, tail⟩ : '?' ≠ c ∧ '?' ∉ more := by simpa using plain
      rw [List.cons_append, pieces_cons head.symm]
      cases more with
      | nil =>
          -- the last letter: a placeholder starts behind it, so nothing joins the text
          cases rest with
          | nil => rfl
          | cons d rest =>
              obtain rfl : d = '?' := stops d rfl
              cases rest with
              | nil => rfl
              | cons e rest =>
                  by_cases double : e = '?'
                  · rw [double]
                    rfl
                  · rw [List.nil_append, pieces_value (by simpa using double)]
                    rfl
      | cons d more => rw [ih (List.cons_ne_nil d more) tail, Piece.consText]

/-- A template falls into pieces in one way. -/
theorem splits_iff {template : List Char} {others : List Piece} :
    Splits template others ↔ others = pieces template := by
  constructor
  · intro splits
    induction splits with
    | done => rfl
    | text some_char plain stops _ ih => rw [pieces_text some_char plain stops, ih]
    | name _ ih => rw [pieces, ih]
    | value single _ ih => rw [pieces_value single, ih]
  · rintro rfl
    exact splits_pieces template

example : pieces "a???b?".toList = [.text ['a'], .name, .value, .text ['b'], .value] := by decide

theorem Splits.flatMap_spelling {template : List Char} {pieces : List Piece}
    (splits : Splits template pieces) : pieces.flatMap Piece.spelling = template := by
  induction splits with
  | done => rfl
  | text _ _ _ _ ih => rw [List.flatMap_cons, ih, Piece.spelling]
  | name _ ih => rw [List.flatMap_cons, ih]; rfl
  | value _ _ ih => rw [List.flatMap_cons, ih]; rfl

theorem Splits.behind {template : List Char} {piece : Piece} {behind : List Piece}
    (splits : Splits template (piece :: behind)) :
    Splits (behind.flatMap Piece.spelling) behind := by
  cases splits with
  | text _ _ _ tail => exact tail.flatMap_spelling.symm ▸ tail
  | name tail => exact tail.flatMap_spelling.symm ▸ tail
  | value _ tail => exact tail.flatMap_spelling.symm ▸ tail

/-- The pieces behind are the pieces of what they spell. -/
theorem Splits.drop {template : List Char} {pieces : List Piece} (splits : Splits template pieces)
    (n : Nat) : Splits ((pieces.drop n).flatMap Piece.spelling) (pieces.drop n) := by
  induction n generalizing template pieces with
  | zero =>
      rw [List.drop_zero, splits.flatMap_spelling]
      exact splits
  | succ n ih =>
      cases pieces with
      | nil => exact .done
      | cons piece behind => exact ih splits.behind

/-! ## Writing -/

variable (dialect : Dialect)

theorem holes_cons (piece : Piece) (behind : List Piece) :
    holes (piece :: behind) = holes [piece] + holes behind := by
  rw [holes, ← List.singleton_append, List.countP_append]
  rfl

theorem holes_cons_text (cs : List Char) (behind : List Piece) :
    holes (.text cs :: behind) = holes behind := rfl

theorem holes_cons_of_isHole {piece : Piece} (hole : piece.isHole = true) (behind : List Piece) :
    holes (piece :: behind) = holes behind + 1 :=
  List.countP_cons_of_pos hole

theorem filledWith_cons (values : List Value) (piece : Piece) (behind : List Piece) :
    filledWith dialect values (piece :: behind) =
      piece.filled dialect values.head? ++
        filledWith dialect (values.drop (holes [piece])) behind := by
  have first : values[holes (List.take 0 (piece :: behind))]? = values.head? := by
    rw [List.head?_eq_getElem?]
    rfl
  rw [filledWith, List.mapIdx_cons, List.flatten_cons, first, filledWith]
  congr 3
  funext i other
  rw [List.take_succ_cons, holes_cons, List.getElem?_drop]

theorem filledWith_append (values : List Value) (front behind : List Piece) :
    filledWith dialect values (front ++ behind) =
      filledWith dialect values front ++
        filledWith dialect (values.drop (holes front)) behind := by
  induction front generalizing values with
  | nil => rfl
  | cons piece rest ih =>
      rw [List.cons_append, filledWith_cons, filledWith_cons, ih, List.drop_drop,
        holes_cons piece rest, List.append_assoc]

/-- Values that no placeholder takes are not looked at. -/
theorem filledWith_take (values : List Value) (pieces : List Piece) :
    filledWith dialect (values.take (holes pieces)) pieces = filledWith dialect values pieces := by
  induction pieces generalizing values with
  | nil => rfl
  | cons piece behind ih =>
      have first : piece.filled dialect (values.take (holes (piece :: behind))).head? =
          piece.filled dialect values.head? := by
        cases piece with
        | text cs => rfl
        | value | name =>
            rw [holes_cons_of_isHole rfl]
            cases values <;> rfl
      rw [filledWith_cons, filledWith_cons, first, List.drop_take, holes_cons,
        Nat.add_sub_cancel_left, ih]

theorem fill_cons {c : Char} (plain : c ≠ '?') (rest : List Char) (values : List Value) :
    fill dialect (c :: rest) values = c :: fill dialect rest values := by
  rw [fill]
  · exact fun _ _ _ _ same => absurd same plain
  · exact fun _ _ same => absurd same plain
  · exact fun _ _ _ => plain

theorem fill_text {cs : List Char} (plain : '?' ∉ cs) (rest : List Char) (values : List Value) :
    fill dialect (cs ++ rest) values = cs ++ fill dialect rest values := by
  induction cs with
  | nil => rfl
  | cons c more ih =>
      obtain ⟨head, tail⟩ : '?' ≠ c ∧ '?' ∉ more := by simpa using plain
      rw [List.cons_append, fill_cons dialect head.symm, ih tail, List.cons_append]

theorem fill_name (rest : List Char) (values : List Value) :
    fill dialect ('?' :: '?' :: rest) values =
      Piece.name.filled dialect values.head? ++ fill dialect rest values.tail := by
  cases values <;> rfl

theorem fill_value {rest : List Char} (single : rest.head? ≠ some '?') (values : List Value) :
    fill dialect ('?' :: rest) values =
      Piece.value.filled dialect values.head? ++ fill dialect rest values.tail := by
  have other : ∀ more, rest ≠ '?' :: more := by
    rintro more rfl
    exact single rfl
  cases values with
  | nil =>
      rw [fill]
      · rfl
      · exact nofun
      · exact fun more _ _ => other more
      · exact nofun
  | cons value values =>
      rw [fill]
      · rfl
      · exact other

theorem Splits.fill_eq {template : List Char} {pieces : List Piece}
    (splits : Splits template pieces) (values : List Value) :
    fill dialect template values = filledWith dialect values pieces := by
  induction splits generalizing values with
  | done => rfl
  | text _ plain _ _ ih =>
      rw [fill_text dialect plain, ih, filledWith_cons]
      rfl
  | name _ ih =>
      rw [fill_name, ih, filledWith_cons, ← List.drop_one]
      rfl
  | value single _ ih =>
      rw [fill_value dialect single, ih, filledWith_cons, ← List.drop_one]
      rfl

/-- The first pieces are written with the values in front, and the rest of the template is filled
with the values that are left. -/
theorem Splits.fill_eq_append {template : List Char} {pieces : List Piece}
    (splits : Splits template pieces) (values : List Value) (n : Nat) :
    fill dialect template values =
      filledWith dialect values (pieces.take n) ++
        fill dialect ((pieces.drop n).flatMap Piece.spelling)
          (values.drop (holes (pieces.take n))) := by
  rw [(splits.drop n).fill_eq, ← filledWith_append, List.take_append_drop, splits.fill_eq]

end TableGateway.Sql
