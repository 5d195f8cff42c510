import TableGateway.Proofs.ReadBack.Literal
import TableGateway.Sql.Statement

/-!
# Statements read back

A reader of the four statements on a table. It takes off the name of the table and, where there are
any, the fields with the literals that they are set to, and leaves the rest of the statement as it
is. The rest is the text of the condition and of what follows it: no name and no value can move the
border between the parts of a statement.
-/

namespace TableGateway.ReadBack

open Sql (Dialect Statement assignment assignments identifier literal whereText)
open Text (comma listed separated_eq_listed)

/-- What a statement says: its table, the fields that it sets, and the text behind them. -/
inductive Said where
  | select (table rest : List Char)
  | insert (table : List Char) (fields : List (List Char × Literal))
  | update (table : List Char) (fields : List (List Char × Literal)) (rest : List Char)
  | delete (table rest : List Char)

def Said.assignments? : Said → Option (List (List Char × Literal))
  | insert _ fields | update _ fields _ => some fields
  | select _ _ | delete _ _ => none

inductive Verb where
  | select
  | insert
  | update
  | delete

def Verb.opening : Verb → String
  | select => "SELECT * FROM "
  | insert => "INSERT INTO "
  | update => "UPDATE "
  | delete => "DELETE FROM "

/-! ## The reader -/

def readVerb : Reader Verb :=
  readWord (fun v => v.opening.toList) [.select, .insert, .update, .delete]

def readAssignment (dialect : Dialect) (text : List Char) :
    Option ((List Char × Literal) × List Char) := do
  let (field, text) ← readName dialect text
  let text ← after? " = ".toList text
  let (value, rest) ← readLiteral dialect text
  return ((field, value), rest)

def readSet (dialect : Dialect) (text : List Char) :
    Option ((List Char × List (List Char × Literal)) × List Char) := do
  let (table, text) ← readName dialect text
  let text ← after? " SET ".toList text
  let (fields, rest) ← readSeparated (readAssignment dialect) comma text
  return ((table, fields), rest)

/-- Reads a statement on a table. An `INSERT` ends with its last literal. -/
def readStatement (dialect : Dialect) (text : List Char) : Option Said := do
  let (verb, text) ← readVerb text
  match verb with
  | .select =>
      let (table, rest) ← readName dialect text
      return .select table rest
  | .insert =>
      let ((table, fields), rest) ← readSet dialect text
      if rest = [] then return .insert table fields else none
  | .update =>
      let ((table, fields), rest) ← readSet dialect text
      return .update table fields rest
  | .delete =>
      let (table, rest) ← readName dialect text
      return .delete table rest

/-! ## What was declared -/

def assigned (field : String × Value) : List Char × Literal :=
  (field.1.toList, content field.2)

/-- What a statement has to say, given the text of its condition. -/
def said (table : String) (suffix : List Char) : Statement → Said
  | .select _ paging => .select table.toList (suffix ++ paging.text)
  | .insert fields => .insert table.toList (fields.entries.map assigned)
  | .update fields _ => .update table.toList (fields.entries.map assigned) suffix
  | .delete _ => .delete table.toList suffix

/-- A statement that sets fields sets at least one. -/
def SetsSome : Statement → Prop
  | .insert fields | .update fields _ => fields.entries ≠ []
  | .select _ _ | .delete _ => True

/-! ## What stands behind a name or a literal -/

/-- The text of a condition is empty or starts with `WHERE`. -/
theorem eq_nil_or_prefix_of_whereText {dialect : Dialect} {key : PrimaryKey}
    {condition : Condition} {suffix : List Char}
    (written : whereText dialect key condition = .ok suffix) :
    suffix = [] ∨ " WHERE ".toList <+: suffix := by
  rw [whereText] at written
  cases parts : Sql.whereOf key condition with
  | error f =>
      rw [parts] at written
      cases written
  | ok w =>
      rw [parts] at written
      obtain rfl : w.text dialect = suffix := Except.ok.inj written
      cases w with
      | clauses items =>
          cases items with
          | nil => exact .inl rfl
          | cons clause rest =>
              right
              change _ <+: " WHERE ".toList ++ Sql.clauseText dialect clause ++
                Sql.joinedClauses dialect rest
              rw [List.append_assoc]
              exact List.prefix_append _ _
      | fragment sql =>
          right
          change _ <+: " WHERE ".toList ++ sql
          exact List.prefix_append _ _

theorem eq_nil_or_eq_cons_of_whereText {dialect : Dialect} {key : PrimaryKey}
    {condition : Condition} {suffix : List Char}
    (written : whereText dialect key condition = .ok suffix) :
    suffix = [] ∨ ∃ more, suffix = ' ' :: more := by
  rcases eq_nil_or_prefix_of_whereText written with nothing | ⟨behind, rfl⟩
  · exact .inl nothing
  · exact .inr ⟨"WHERE ".toList ++ behind, by simp⟩

theorem blankNext_space (rest : List Char) : BlankNext (' ' :: rest) :=
  Next.cons rest (by decide)

theorem blankNext_limitText (w : Window) : BlankNext w.limitText := by
  unfold Window.limitText
  split
  · exact blankNext_space _
  · exact Next.nil
  · exact blankNext_space _
  · exact blankNext_space _
  · exact blankNext_space _

/-- What follows the condition of a `SELECT` is empty or starts with a blank. -/
theorem blankNext_paging (paging : Paging) : BlankNext paging.text := by
  cases paging with
  | unspecified => exact Next.nil
  | raw sql =>
      rw [Paging.text]
      cases sql.toList with
      | nil => exact Next.nil
      | cons c rest =>
          rw [spaced]
          split
          · next blank =>
              exact Next.cons rest blank
          · exact blankNext_space _
  | window w =>
      rw [Paging.text, Window.text]
      apply Next.append
      · cases w.orderBy with
        | none => exact Next.nil
        | some orderBy => exact blankNext_space _
      · exact blankNext_limitText w

/-! ## Statements read back -/

theorem readAssignment_assignment (dialect : Dialect) (field : String × Value) {rest : List Char}
    (boundary : Boundary rest) :
    readAssignment dialect (assignment dialect field ++ rest) = some (assigned field, rest) := by
  have value : readLiteral dialect (literal dialect field.2 ++ rest) =
      some (content field.2, rest) :=
    readLiteralWithin_literal dialect _ field.2 (by simp) boundary
  have name : readName dialect (identifier dialect field.1.toList ++
      (" = ".toList ++ (literal dialect field.2 ++ rest))) =
        some (field.1.toList, " = ".toList ++ (literal dialect field.2 ++ rest)) :=
    readName_identifier dialect field.1.toList (blankNext_space _)
  rw [assignment, List.append_assoc, List.append_assoc, readAssignment, name]
  simp only [Option.bind_eq_bind, Option.bind_some, after?_append, value]
  rfl

theorem assignment_ne_nil (dialect : Dialect) (field : String × Value) :
    assignment dialect field ≠ [] := by
  simp [assignment]

theorem boundary_of_eq {rest : List Char} (start : rest = [] ∨ ∃ more, rest = ' ' :: more) :
    Boundary rest := by
  rcases start with rfl | ⟨more, rfl⟩
  · exact Next.nil
  · exact Next.cons more (.inr (.inr rfl))

/-- The assignments of a record are read back as its fields, up to the text of the condition. -/
theorem readSeparated_assignments (dialect : Dialect) {fields : Record} {rest : List Char}
    (some_field : fields.entries ≠ []) (start : rest = [] ∨ ∃ more, rest = ' ' :: more) :
    readSeparated (readAssignment dialect) comma (assignments dialect fields ++ rest) =
      some (fields.entries.map assigned, rest) := by
  have written : ∀ item ∈ fields.entries.map (assignment dialect), item ≠ [] := by
    intro item mem
    obtain ⟨field, -, rfl⟩ := List.mem_map.1 mem
    exact assignment_ne_nil dialect field
  have ends : after? comma rest = none := by
    rcases start with rfl | ⟨more, rfl⟩ <;> simp [comma, after?]
  rw [assignments, separated_eq_listed comma written]
  exact readSeparated_listed Boundary some_field (by simp [comma])
    (fun field _ _ boundary => readAssignment_assignment dialect field boundary)
    (fun more => Next.cons (' ' :: more) (.inr (.inl rfl))) (boundary_of_eq start) ends

theorem readSet_assignments (dialect : Dialect) (table : String) {fields : Record}
    {rest : List Char} (some_field : fields.entries ≠ [])
    (start : rest = [] ∨ ∃ more, rest = ' ' :: more) :
    readSet dialect (identifier dialect table.toList ++
        (" SET ".toList ++ (assignments dialect fields ++ rest))) =
      some ((table.toList, fields.entries.map assigned), rest) := by
  have name : readName dialect (identifier dialect table.toList ++
      (" SET ".toList ++ (assignments dialect fields ++ rest))) =
        some (table.toList, " SET ".toList ++ (assignments dialect fields ++ rest)) :=
    readName_identifier dialect table.toList (blankNext_space _)
  have set := readSeparated_assignments dialect some_field start
  rw [readSet, name]
  simp only [Option.bind_eq_bind, Option.bind_some, after?_append, set]
  rfl

theorem readVerb_opening (v : Verb) (rest : List Char) :
    readVerb (v.opening.toList ++ rest) = some (v, rest) := by
  cases v <;> simp [readVerb, readWord, Verb.opening, after?]

/-- A statement is read back as what it says, given the text of its condition. -/
theorem readStatement_head (dialect : Dialect) (table : String) (key : PrimaryKey) {s : Statement}
    {suffix : List Char} (complete : SetsSome s)
    (compiled : whereText dialect key s.condition = .ok suffix) :
    readStatement dialect (s.head dialect table ++ suffix ++ s.tail) =
      some (said table suffix s) := by
  have start := eq_nil_or_eq_cons_of_whereText compiled
  have blank : BlankNext suffix := by
    rcases start with rfl | ⟨more, rfl⟩
    · exact Next.nil
    · exact blankNext_space more
  -- What a statement starts with holds by definition; unfolding it would spell out its words.
  cases s with
  | select condition paging =>
      have name := readName_identifier dialect table.toList
        (blank.append (blankNext_paging paging))
      have written : (Statement.select condition paging).head dialect table =
          Verb.select.opening.toList ++ identifier dialect table.toList := rfl
      rw [written, List.append_assoc, List.append_assoc, readStatement, readVerb_opening]
      simp [Statement.tail, name, said]
  | insert fields =>
      obtain rfl : [] = suffix := Except.ok.inj compiled
      have set := readSet_assignments dialect table complete start
      have written : (Statement.insert fields).head dialect table =
          Verb.insert.opening.toList ++ identifier dialect table.toList ++ " SET ".toList ++
            assignments dialect fields := rfl
      have nothing : (Statement.insert fields).tail = [] := rfl
      rw [written, nothing, List.append_nil]
      simp only [List.append_assoc, readStatement, readVerb_opening, Option.bind_eq_bind,
        Option.bind_some, set, if_true]
      rfl
  | update fields condition =>
      have set := readSet_assignments dialect table complete start
      have written : (Statement.update fields condition).head dialect table =
          Verb.update.opening.toList ++ identifier dialect table.toList ++ " SET ".toList ++
            assignments dialect fields := rfl
      have nothing : (Statement.update fields condition).tail = [] := rfl
      rw [written, nothing, List.append_nil]
      simp only [List.append_assoc, readStatement, readVerb_opening, Option.bind_eq_bind,
        Option.bind_some, set]
      rfl
  | delete condition =>
      have name := readName_identifier dialect table.toList blank
      have written : (Statement.delete condition).head dialect table =
          Verb.delete.opening.toList ++ identifier dialect table.toList := rfl
      have nothing : (Statement.delete condition).tail = [] := rfl
      rw [written, nothing, List.append_nil, List.append_assoc, readStatement, readVerb_opening]
      simp [name, said]

/-- A statement that is written is read back: its table, the fields of its record with their
literals in order, and behind them the text of its condition and of its paging, to the letter.
Reading a name undoes its quotes: the parts with dots between them are the name, and there is one
part, or in MySQL one more than there are dots. -/
theorem readStatement_text (dialect : Dialect) (table : String) (key : PrimaryKey) {s : Statement}
    {text : String} (complete : SetsSome s) (written : s.text dialect table key = .ok text) :
    (∃ suffix, whereText dialect key s.condition = .ok suffix ∧
      readStatement dialect text.toList = some (said table suffix s)) ∧
    ∀ name rest, BlankNext rest →
      ∃ read, readParts dialect (identifier dialect name ++ rest) = some (read, rest) ∧
        listed ['.'] read = name ∧ read.length = partCount dialect name := by
  constructor
  · cases compiled : whereText dialect key s.condition with
    | error f =>
        rw [Statement.text, Statement.chars, compiled] at written
        cases written
    | ok suffix =>
        rw [Statement.text, Statement.chars, compiled] at written
        obtain rfl : String.ofList (s.head dialect table ++ suffix ++ s.tail) = text :=
          Except.ok.inj written
        refine ⟨suffix, rfl, ?_⟩
        rw [String.toList_ofList]
        exact readStatement_head dialect table key complete compiled
  · intro name rest next
    exact readParts_identifier dialect name next

/-- Neither a name nor a text moves the border between the assignments and the condition. -/
theorem readStatement_text_punctuation :
    ∃ text, (Statement.update (OrderedMap.singleton "a` = 1 WHERE " (.varchar "', b = '"))
        (.raw "c = 1")).text .mysql "shop.users" (.single "id") = .ok text ∧
      readStatement .mysql text.toList =
        some (.update "shop.users".toList [("a` = 1 WHERE ".toList, .text "', b = '".toList)]
          " WHERE c = 1".toList) := by
  obtain ⟨⟨suffix, compiled, back⟩, -⟩ := readStatement_text .mysql "shop.users" (.single "id")
    (s := Statement.update (OrderedMap.singleton "a` = 1 WHERE " (.varchar "', b = '"))
      (.raw "c = 1")) (List.cons_ne_nil _ _) rfl
  refine ⟨_, rfl, back.trans ?_⟩
  obtain rfl : " WHERE c = 1".toList = suffix := Except.ok.inj compiled
  simp [said, assigned, content, OrderedMap.singleton]

end TableGateway.ReadBack
