import TableGateway.Gateway.Config
import TableGateway.Json.Reader
import TableGateway.Settings.Error

/-!
# Settings of a table

The serialized form of a configuration: an object with the name of the table, its primary key and
the fields that may be written, or an array of the three in that order. Only the table is required,
and members of other names are skipped. The text is read from left to right, so the first thing that
is wrong with it is what counts.
-/

namespace TableGateway.Settings

open Json (Document afterItem finish maxNesting readBlanks readString)

/-- The serialized form of a configuration. -/
structure TableSettings where
  table : String
  primaryKey : PrimaryKey
  fields : List String

def TableSettings.toConfig (s : TableSettings) : Except Failure TableConfig := do
  let config := ((TableConfig.named s.table).withKey s.primaryKey).withFields s.fields
  config.check
  return config

/-- The error of a value that stands in a wrong place: its kind, or its own fault when it has one.
The content of an array or an object is not looked at. -/
def wrongType (expected : Expected) (text : List Char) : Error :=
  match text with
  | '[' :: _ => .invalidType (.array []) expected
  | '\x7b' :: _ => .invalidType (.object []) expected
  | text =>
      match Json.read .used maxNesting text with
      | .ok (found, _) => .invalidType found expected
      | .error fault => .notJson fault

def readText (text : List Char) : Checked (String × List Char) :=
  match readBlanks text with
  | '"' :: rest =>
      (ofParsed (readString .used rest)).map fun parts => (String.ofList parts.1, parts.2)
  | text => .error (wrongType .text text)

/-- Reads the texts of a list that has at least one more, one unit of fuel for each. -/
def readTexts : Nat → List Char → Checked (List String × List Char)
  | 0, _ => .error (.notJson .unexpectedEnd)
  | fuel + 1, text => do
      let (item, rest) ← readText text
      match ← ofParsed (afterItem ']' rest) with
      | (false, rest) => return ([item], rest)
      | (true, rest) =>
          let (items, rest) ← readTexts fuel rest
          return (item :: items, rest)

def readFields (text : List Char) : Checked (List String × List Char) :=
  match readBlanks text with
  | '[' :: rest =>
      match readBlanks rest with
      | ']' :: rest => .ok ([], rest)
      | rest => readTexts rest.length rest
  | text => .error (wrongType .sequence text)

def textsOf? : List Document → Option (List String)
  | [] => some []
  | .string s :: rest => (textsOf? rest).map (s :: ·)
  | _ => none

/-- The key that a value stands for: a text for one field, an array of texts for several. -/
def keyOf : Document → Checked PrimaryKey
  | .string s => .ok (.single s)
  | .array items =>
      match textsOf? items with
      | some fields => .ok (.composite fields)
      | none => .error .noKey
  | _ => .error .noKey

/-- Reads a key. The whole value is read before its shape is looked at. -/
def readKey (depth : Nat) (text : List Char) : Checked (PrimaryKey × List Char) := do
  let (value, rest) ← ofParsed (Json.read .used depth text)
  let key ← keyOf value
  return (key, rest)

structure Draft where
  table : Option String
  primaryKey : Option PrimaryKey
  fields : Option (List String)

def Draft.empty : Draft := ⟨none, none, none⟩

def Draft.close (d : Draft) : Checked TableSettings :=
  match d.table with
  | some table => .ok ⟨table, d.primaryKey.getD .standard, d.fields.getD []⟩
  | none => .error (.missingField "table")

def afterName (text : List Char) : Checked (List Char) :=
  match readBlanks text with
  | ':' :: rest => .ok rest
  | [] => .error (.notJson .unexpectedEnd)
  | _ => .error (.notJson .unexpectedCharacter)

/-- Reads the value of a member. A member that was there before is refused ahead of its value. -/
def Draft.readMember (d : Draft) (name : String) (text : List Char) :
    Checked (Draft × List Char) :=
  if name = "table" then
    if d.table.isSome then .error (.duplicateField name)
    else do
      let (table, rest) ← readText (← afterName text)
      return ({ d with table := some table }, rest)
  else if name = "primaryKey" then
    if d.primaryKey.isSome then .error (.duplicateField name)
    else do
      let (key, rest) ← readKey (maxNesting - 1) (← afterName text)
      return ({ d with primaryKey := some key }, rest)
  else if name = "fields" then
    if d.fields.isSome then .error (.duplicateField name)
    else do
      let (fields, rest) ← readFields (← afterName text)
      return ({ d with fields := some fields }, rest)
  else do
    let (_, rest) ← ofParsed (Json.read .skipped 0 (← afterName text))
    return (d, rest)

/-- Reads the members of an object that has at least one more, one unit of fuel for each. The rest
starts behind the closing brace. -/
def Draft.readMembers (d : Draft) : Nat → List Char → Checked (Draft × List Char)
  | 0, _ => .error (.notJson .unexpectedEnd)
  | fuel + 1, text => do
      match readBlanks text with
      | '"' :: rest =>
          let (name, rest) ← ofParsed (readString .used rest)
          let (d, rest) ← d.readMember (String.ofList name) rest
          match ← ofParsed (afterItem '\x7d' rest) with
          | (false, rest) => return (d, rest)
          | (true, rest) => d.readMembers fuel rest
      | [] => .error (.notJson .unexpectedEnd)
      | _ => .error (.notJson .unexpectedCharacter)

def readObject (text : List Char) : Checked (TableSettings × List Char) := do
  let (d, rest) ←
    match readBlanks text with
    | '\x7d' :: rest => pure (Draft.empty, rest)
    | rest => Draft.empty.readMembers rest.length rest
  let settings ← d.close
  return (settings, rest)

/-- An element that may be left out: whether an array goes on, and what to read there. -/
def readElement (more : Bool) (default : α) (read : List Char → Checked (α × List Char))
    (text : List Char) : Checked (α × Bool × List Char) := do
  if more then
    let (value, rest) ← read text
    let (more, rest) ← ofParsed (afterItem ']' rest)
    return (value, more, rest)
  else return (default, false, text)

def readArray (text : List Char) : Checked (TableSettings × List Char) := do
  match readBlanks text with
  | ']' :: _ => .error .noElements
  | text =>
      let (table, more, rest) ← readElement true "" readText text
      let (key, more, rest) ← readElement more .standard (readKey (maxNesting - 1)) rest
      let (fields, more, rest) ← readElement more [] readFields rest
      if more then .error (.notJson .trailingCharacters)
      else return (⟨table, key, fields⟩, rest)

def read (text : String) : Checked TableSettings := do
  let (settings, rest) ←
    match readBlanks text.toList with
    | '\x7b' :: rest => readObject rest
    | '[' :: rest => readArray rest
    | text => .error (wrongType .settings text)
  ofParsed (finish rest)
  return settings

def readPrimaryKey (text : String) : Checked PrimaryKey := do
  let (key, rest) ← readKey maxNesting text.toList
  ofParsed (finish rest)
  return key

end TableGateway.Settings
