import TableGateway.Pattern.CharSet

/-!
# Named properties

A pattern names a property of characters by a general category, a script or a binary property. Case,
spaces, hyphens and underscores of a name do not count, and neither does a leading `is`.
-/

namespace TableGateway.Pattern

open Unicode (Category)

/-- The letters and digits of a name in lower case. -/
def plainName (name : List Char) : List Char :=
  (name.filter fun c => c != ' ' && c != '_' && c != '-' && c.toNat < 0x80).map Char.toLower

/-- The form in which names are compared. A lone `c` behind `is` is no category. -/
def nameKey : List Char → List Char
  | i :: s :: rest =>
      if i.toLower = 'i' && s.toLower = 's' then
        if plainName rest = ['c'] then ['i', 's', 'c'] else plainName rest
      else plainName (i :: s :: rest)
  | name => plainName name

def sameName (name : String) (key : List Char) : Bool :=
  plainName name.toList == key

def Property.names : List (String × Property) := [
  ("alpha", .alphabetic), ("alphabetic", .alphabetic), ("lower", .lowercase),
  ("lowercase", .lowercase), ("upper", .uppercase), ("uppercase", .uppercase),
  ("space", .blank), ("wspace", .blank), ("whitespace", .blank), ("emoji", .emoji),
  ("any", .any), ("ascii", .ascii), ("assigned", .assigned)]

def categoriesNamed? (key : List Char) : Option (List Category) :=
  let long := (Category.aliases.find? fun entry => sameName entry.1 key).map Prod.snd
  let key := match long with
    | some name => plainName name.toList
    | none => key
  match Category.entries.find? fun entry => sameName entry.1 key || sameName entry.2.1 key with
  | some entry => if entry.2.2 = .surrogate then none else some [entry.2.2]
  | none =>
      (Category.groups.find? fun entry =>
        sameName entry.1 key || sameName entry.2.1 key).map fun entry => entry.2.2

def propertyNamed? (key : List Char) : Option CharSet :=
  (Property.names.find? fun entry => sameName entry.1 key).map fun entry => .property entry.2

def categoryNamed? (key : List Char) : Option CharSet :=
  (categoriesNamed? key).map .categories

def scriptNamed? (key : List Char) : Option String :=
  (Unicode.scriptNames.find? fun entry =>
    sameName entry.1 key || entry.2.any fun name => sameName name key).map Prod.fst

/-- The sets that stand among the categories without being one. -/
def wholeNamed? (key : List Char) : Option CharSet :=
  if sameName "any" key then some (.property .any)
  else if sameName "ascii" key then some (.property .ascii)
  else if sameName "assigned" key then some (.property .assigned)
  else none

/-- The set that a bare name stands for: a category, a binary property or a script. -/
def setNamed? (name : List Char) : Option CharSet :=
  let key := nameKey name
  (categoryNamed? key).or ((propertyNamed? key).or ((scriptNamed? key).map .script))

def setValued? (property value : List Char) : Option CharSet :=
  let key := nameKey value
  if property.isEmpty then none
  else if sameName "gc" (nameKey property) || sameName "generalcategory" (nameKey property) then
    (categoryNamed? key).or (wholeNamed? key)
  else if sameName "sc" (nameKey property) || sameName "script" (nameKey property) then
    (scriptNamed? key).map .script
  else if sameName "scx" (nameKey property) ||
      sameName "scriptextensions" (nameKey property) then
    (scriptNamed? key).map .usedWith
  else none

end TableGateway.Pattern
