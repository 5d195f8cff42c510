import TableGateway.Json.Number
import TableGateway.Json.Text

/-!
# Reading JSON values

A recursive reader with one unit of fuel for every value, item and member, of which a text has no
more than characters. A value that is used nests at most 127 arrays and objects.
-/

namespace TableGateway.Json

/-- How many levels of arrays and objects a document may have, with one to spare. -/
def maxNesting : Nat := 128

def afterLiteral (word : List Char) (value : Document) (text : List Char) :
    Parsed (Document × List Char) :=
  if word.isPrefixOf text then .ok (value, text.drop word.length)
  else if text.isPrefixOf word then .error .unexpectedEnd
  else .error .unexpectedCharacter

def deeper (care : Care) (depth : Nat) : Parsed Nat :=
  match care with
  | .skipped => .ok depth
  | .used => if depth ≤ 1 then .error .tooDeep else .ok (depth - 1)

/-- The separator in front of a further item: whether there is one more, and the rest. -/
def afterItem (close : Char) (text : List Char) : Parsed (Bool × List Char) :=
  match readBlanks text with
  | [] => .error .unexpectedEnd
  | c :: rest =>
      if c = close then .ok (false, rest)
      else if c = ',' then
        match readBlanks rest with
        | [] => .error .unexpectedEnd
        | d :: rest => if d = close then .error .unexpectedCharacter else .ok (true, d :: rest)
      else .error .unexpectedCharacter

def readName (care : Care) (text : List Char) : Parsed (List Char × List Char) := do
  match readBlanks text with
  | [] => .error .unexpectedEnd
  | '"' :: rest =>
      let (name, rest) ← readString care rest
      match readBlanks rest with
      | ':' :: rest => return (name, rest)
      | [] => .error .unexpectedEnd
      | _ => .error .unexpectedCharacter
  | _ => .error .unexpectedCharacter

mutual

def readValue (care : Care) : Nat → Nat → List Char → Parsed (Document × List Char)
  | 0, _, _ => .error .unexpectedEnd
  | fuel + 1, depth, text =>
      match readBlanks text with
      | [] => .error .unexpectedEnd
      | '"' :: rest =>
          (readString care rest).map fun parts => (.string (String.ofList parts.1), parts.2)
      | '[' :: rest => do
          let inner ← deeper care depth
          match readBlanks rest with
          | ']' :: rest => return (.array [], rest)
          | rest =>
              let (items, rest) ← readItems care fuel inner rest
              return (.array items, rest)
      | '\x7b' :: rest => do
          let inner ← deeper care depth
          match readBlanks rest with
          | '\x7d' :: rest => return (.object [], rest)
          | rest =>
              let (members, rest) ← readMembers care fuel inner rest
              return (.object members, rest)
      | c :: rest =>
          if c = 'n' then afterLiteral "ull".toList .null rest
          else if c = 't' then afterLiteral "rue".toList (.boolean true) rest
          else if c = 'f' then afterLiteral "alse".toList (.boolean false) rest
          else if c = '-' || c.isDigit then readNumber care (c :: rest)
          else .error .unexpectedCharacter

def readItems (care : Care) : Nat → Nat → List Char → Parsed (List Document × List Char)
  | 0, _, _ => .error .unexpectedEnd
  | fuel + 1, depth, text => do
      let (item, rest) ← readValue care fuel depth text
      match ← afterItem ']' rest with
      | (false, rest) => return ([item], rest)
      | (true, rest) =>
          let (items, rest) ← readItems care fuel depth rest
          return (item :: items, rest)

def readMembers (care : Care) :
    Nat → Nat → List Char → Parsed (List (String × Document) × List Char)
  | 0, _, _ => .error .unexpectedEnd
  | fuel + 1, depth, text => do
      let (name, rest) ← readName care text
      let (value, rest) ← readValue care fuel depth rest
      match ← afterItem '\x7d' rest with
      | (false, rest) => return ([(String.ofList name, value)], rest)
      | (true, rest) =>
          let (members, rest) ← readMembers care fuel depth rest
          return ((String.ofList name, value) :: members, rest)

end

/-- Reads the value that a text starts with, at most `depth` levels deep. -/
def read (care : Care) (depth : Nat) (text : List Char) : Parsed (Document × List Char) :=
  readValue care (2 * text.length + 2) depth text

def finish (text : List Char) : Parsed Unit :=
  if (readBlanks text).isEmpty then .ok () else .error .trailingCharacters

end TableGateway.Json
