import TableGateway.Text.Blank

/-!
# Operators and conjunctions

The comparison operators that a clause may use and the two words that join clauses. Both are read
from text without regard to ASCII case; an operator may also have any blanks around and between its
words. What is read here is written into statements as it stands, so nothing else is accepted.
-/

namespace TableGateway

inductive Operator where
  | equal
  | notEqual
  | lessGreater
  | less
  | lessEqual
  | greater
  | greaterEqual
  | nullSafeEqual
  | like
  | notLike
  | isIn
  | notIn
  | is
  | isNot
  | regexp
  | notRegexp
  deriving DecidableEq, Inhabited

namespace Operator

def spelling : Operator → String
  | equal => "="
  | notEqual => "!="
  | lessGreater => "<>"
  | less => "<"
  | lessEqual => "<="
  | greater => ">"
  | greaterEqual => ">="
  | nullSafeEqual => "<=>"
  | like => "LIKE"
  | notLike => "NOT LIKE"
  | isIn => "IN"
  | notIn => "NOT IN"
  | is => "IS"
  | isNot => "IS NOT"
  | regexp => "REGEXP"
  | notRegexp => "NOT REGEXP"

def ofSpelling? : String → Option Operator
  | "=" => some equal
  | "!=" => some notEqual
  | "<>" => some lessGreater
  | "<" => some less
  | "<=" => some lessEqual
  | ">" => some greater
  | ">=" => some greaterEqual
  | "<=>" => some nullSafeEqual
  | "LIKE" => some like
  | "NOT LIKE" => some notLike
  | "IN" => some isIn
  | "NOT IN" => some notIn
  | "IS" => some is
  | "IS NOT" => some isNot
  | "REGEXP" => some regexp
  | "NOT REGEXP" => some notRegexp
  | _ => none

def joinWords : List (List Char) → List Char
  | [] => []
  | [word] => word
  | word :: rest => word ++ ' ' :: joinWords rest

/-- The words of a text in capital letters with single spaces between them. -/
def normalize (text : String) : String :=
  String.ofList (Text.upperAscii (joinWords (Text.words text.toList)))

def read? (text : String) : Option Operator :=
  ofSpelling? (normalize text)

def isLike : Operator → Bool
  | like | notLike => true
  | _ => false

theorem ofSpelling?_spelling (o : Operator) : ofSpelling? o.spelling = some o := by
  cases o <;> rfl

end Operator

/-- The word between a clause and the clauses in front of it. -/
inductive Conjunction where
  | and
  | or
  deriving DecidableEq, Inhabited

namespace Conjunction

def spelling : Conjunction → String
  | and => "AND"
  | or => "OR"

def read? (text : String) : Option Conjunction :=
  match String.ofList (Text.upperAscii (Text.trim text.toList)) with
  | "AND" => some and
  | "OR" => some or
  | _ => none

theorem read?_eq_some_iff {text : String} {c : Conjunction} :
    read? text = some c ↔ Text.upperAscii (Text.trim text.toList) = c.spelling.toList := by
  rw [← String.ofList_inj, String.ofList_toList, read?]
  constructor
  · intro found
    split at found <;> cases found <;> assumption
  · intro same
    rw [same]
    cases c <;> rfl

end Conjunction

end TableGateway
