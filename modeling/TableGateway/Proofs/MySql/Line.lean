import TableGateway.MySql.Cell
import TableGateway.Proofs.Row.Columns

/-!
# Lines of cells decoded

Columns and cells are taken in step, so a row has the value of each cell under the label of its
column, and none is missing behind a label. The first cell that cannot be decoded is the only one
reported. Octets under a column without a rule of its own are never refused and stay as they are.
-/

namespace TableGateway.MySql

open Text (decodeUtf8 decodeUtf8_eq_ok_iff utf8Octets)

/-! ## Cells in their places -/

/-- The cell in a place of a line, null where it is missing or was taken before. -/
def cellAt (cells : List (Option Cell)) (i : Nat) : Cell :=
  cells[i]?.join.getD .null

theorem cellAt_zero (cells : List (Option Cell)) :
    cellAt cells 0 = cells.head?.join.getD .null := by
  rw [cellAt, List.head?_eq_getElem?]

theorem cellAt_succ (cells : List (Option Cell)) (i : Nat) :
    cellAt cells (i + 1) = cellAt cells.tail i := by
  rw [cellAt, cellAt, List.getElem?_tail]

theorem cellAt_eq_null {cells : List (Option Cell)} {i : Nat}
    (empty : cells[i]?.join = none ∨ cells[i]?.join = some .null) : cellAt cells i = .null := by
  rcases empty with gone | null
  · rw [cellAt, gone, Option.getD_none]
  · rw [cellAt, null, Option.getD_some]

/-- Some values are those of the first cells, one for each column. -/
structure Decodes (columns : List Column) (cells : List (Option Cell)) (values : List Value) :
    Prop where
  length_eq : values.length = columns.length
  values_eq : ∀ (i : Nat) (column : Column), columns[i]? = some column →
    values[i]? = column.decode? (cellAt cells i)

/-- A cell cannot be decoded under its column, and every cell in front of it can. -/
def FailsAt (columns : List Column) (cells : List (Option Cell)) (column : Column)
    (cell : Cell) : Prop :=
  ∃ before after, columns = before ++ column :: after ∧
    (∀ (i : Nat) (other : Column), before[i]? = some other →
      other.decode? (cellAt cells i) ≠ none) ∧
    cell = cellAt cells before.length ∧ column.decode? cell = none

theorem Decodes.cons {column : Column} {columns : List Column} {cells : List (Option Cell)}
    {value : Value} {values : List Value} (first : column.decode? (cellAt cells 0) = some value)
    (rest : Decodes columns cells.tail values) :
    Decodes (column :: columns) cells (value :: values) where
  length_eq := congrArg Nat.succ rest.length_eq
  values_eq := by
    intro i other place
    cases i with
    | zero =>
        cases place
        exact first.symm
    | succ i =>
        rw [cellAt_succ]
        exact rest.values_eq i other place

theorem FailsAt.cons {column failed : Column} {columns : List Column}
    {cells : List (Option Cell)} {cell : Cell}
    (first : column.decode? (cellAt cells 0) ≠ none)
    (rest : FailsAt columns cells.tail failed cell) :
    FailsAt (column :: columns) cells failed cell := by
  obtain ⟨before, after, rfl, decoded, rfl, fails⟩ := rest
  refine ⟨column :: before, after, rfl, ?_, (cellAt_succ cells before.length).symm, fails⟩
  intro i other place
  cases i with
  | zero =>
      cases place
      exact first
  | succ i =>
      rw [cellAt_succ]
      exact decoded i other place

/-- Either all cells are decoded, or the first one that cannot be is told with its column. -/
theorem decodeCells_cases (columns : List Column) (cells : List (Option Cell)) :
    (∃ values, decodeCells columns cells = .ok values ∧ Decodes columns cells values) ∨
      ∃ column cell, decodeCells columns cells = .error (column, cell) ∧
        FailsAt columns cells column cell := by
  induction columns generalizing cells with
  | nil => exact .inl ⟨[], rfl, rfl, by simp⟩
  | cons column columns ih =>
      rw [decodeCells, ← cellAt_zero]
      cases first : column.decode? (cellAt cells 0) with
      | none => exact .inr ⟨column, _, rfl, [], columns, rfl, by simp, rfl, first⟩
      | some value =>
          have decoded : column.decode? (cellAt cells 0) ≠ none := by simp [first]
          rcases ih cells.tail with ⟨values, run, rest⟩ | ⟨failed, cell, run, rest⟩
          · exact .inl ⟨value :: values, by rw [run]; rfl, rest.cons first⟩
          · exact .inr ⟨failed, cell, by rw [run]; rfl, rest.cons decoded⟩

/-! ## Octets -/

/-- The types whose cells are read as integers, floating point numbers, decimals, dates, timestamps
or times. -/
def ColumnType.ruled : List ColumnType :=
  [tiny, short, int24, long, longlong, year, float, double, decimal, newdecimal, date, newdate,
    datetime, datetime2, timestamp, timestamp2, time, time2]

theorem family_eq_content {type : ColumnType} (free : type ∉ ColumnType.ruled) :
    type.family = .content := by
  cases type <;> first | rfl | exact absurd (by decide) free

/-- The octets that a blob has or a text encodes. -/
def octets? : Value → Option (List UInt8)
  | .blob content => some content
  | .varchar text => some (utf8Octets text)
  | _ => none

theorem decode?_octets {column : Column} (free : column.type ∉ ColumnType.ruled)
    (content : List UInt8) :
    column.decode? (.octets content) = some (Cell.textOrBlob column.isBinary content) := by
  simp only [Column.decode?, family_eq_content free, Cell.content?]

theorem textOrBlob_text (text : String) :
    Cell.textOrBlob false (utf8Octets text) = .varchar text := by
  simp [Cell.textOrBlob, (decodeUtf8_eq_ok_iff _ text).2 rfl]

theorem textOrBlob_of_no_text {content : List UInt8}
    (none_such : ∀ text, utf8Octets text ≠ content) :
    Cell.textOrBlob false content = .blob content := by
  cases read : decodeUtf8 content with
  | ok text => exact absurd ((decodeUtf8_eq_ok_iff _ text).1 read) (none_such text)
  | error fault => simp [Cell.textOrBlob, read]

theorem octets?_textOrBlob (isBinary : Bool) (content : List UInt8) :
    octets? (Cell.textOrBlob isBinary content) = some content := by
  cases isBinary with
  | true => rfl
  | false =>
      by_cases encodes : ∃ text, utf8Octets text = content
      · obtain ⟨text, rfl⟩ := encodes
        rw [textOrBlob_text, octets?]
      · rw [textOrBlob_of_no_text fun text same => encodes ⟨text, same⟩, octets?]

/-! ## Lines -/

theorem decode?_null (column : Column) : column.decode? .null = some .null := rfl

/-- A line of cells becomes a row with one value for each label, that of the cell in its place, so
no label is without its value; or it is refused at the first cell that cannot be decoded, and one
error is reported, which names the column. A cell that is null or was taken before becomes null.
Octets under a column without a rule of its own are kept: as a blob where the column is binary or
they encode no text, and else as the text they encode. -/
theorem decodes_lines (describe : Cell → String) (columns : List Column)
    (cells : List (Option Cell)) :
    ((∃ row, decodeRow columns cells = .ok row ∧ decodeNotices describe columns cells = [] ∧
        row.labels = columns.map Column.name ∧ row.values.length = row.labels.length ∧
        (∀ (i : Nat) (column : Column), columns[i]? = some column →
          row.values[i]? = column.decode? (cellAt cells i)) ∧
        ∀ name, row.column name ≠ .beyond) ∨
      ∃ before column after, columns = before ++ column :: after ∧
        (∀ (i : Nat) (other : Column), before[i]? = some other →
          other.decode? (cellAt cells i) ≠ none) ∧
        column.decode? (cellAt cells before.length) = none ∧
        decodeRow columns cells = .error (column, cellAt cells before.length) ∧
        ∃ notice, decodeNotices describe columns cells = [notice] ∧ notice.level = .error ∧
          notice.text = "Cannot decode column `" ++ column.name ++ "`: " ++
            describe (cellAt cells before.length)) ∧
    (∀ i, cells[i]?.join = none ∨ cells[i]?.join = some .null →
      ∀ column : Column, column.decode? (cellAt cells i) = some .null) ∧
    ∀ (column : Column) (content : List UInt8), column.type ∉ ColumnType.ruled →
      (column.decode? (.octets content)).bind octets? = some content ∧
      (column.characterSet = 63 → column.decode? (.octets content) = some (.blob content)) ∧
      (column.characterSet ≠ 63 → (∀ text, utf8Octets text ≠ content) →
        column.decode? (.octets content) = some (.blob content)) ∧
      (column.characterSet ≠ 63 → ∀ text, utf8Octets text = content →
        column.decode? (.octets content) = some (.varchar text)) := by
  refine ⟨?_, ?_, ?_⟩
  · rcases decodeCells_cases columns cells with ⟨values, run, decoded⟩ | ⟨column, cell, run, fails⟩
    · left
      have complete : Row.Complete ⟨columns.map Column.name, values⟩ := by
        rw [Row.Complete, decoded.length_eq, List.length_map]
      have row : decodeRow columns cells = .ok ⟨columns.map Column.name, values⟩ := by
        rw [decodeRow, run]
        rfl
      exact ⟨_, row, by rw [decodeNotices, row], rfl, complete, decoded.values_eq,
        Row.column_ne_beyond complete⟩
    · right
      obtain ⟨before, after, parts, front, rfl, undecodable⟩ := fails
      have refused : decodeRow columns cells = .error (column, cellAt cells before.length) := by
        rw [decodeRow, run]
        rfl
      exact ⟨before, column, after, parts, front, undecodable, refused, _,
        by rw [decodeNotices, refused], rfl, rfl⟩
  · intro i empty column
    rw [cellAt_eq_null empty]
    exact decode?_null column
  · intro column content free
    have plain (other : column.characterSet ≠ 63) : column.isBinary = false := by
      simpa [Column.isBinary, binaryCharacterSet] using other
    rw [decode?_octets free]
    refine ⟨octets?_textOrBlob _ content, ?_, ?_, ?_⟩
    · intro binary
      simp [Column.isBinary, binaryCharacterSet, binary, Cell.textOrBlob]
    · intro other none_such
      rw [plain other, textOrBlob_of_no_text none_such]
    · rintro other text rfl
      rw [plain other, textOrBlob_text]

end TableGateway.MySql
