import TableGateway.Numeric.Binary64

/-!
# JSON documents

The values of JSON and the faults of reading one. A number without point and exponent is an integer
when it fits 64 bits, and a floating point number otherwise.
-/

namespace TableGateway.Json

open Numeric (Binary64)

inductive Document where
  | null
  | boolean (b : Bool)
  | integer (n : Int)
  | float (x : Binary64)
  | string (text : String)
  | array (items : List Document)
  | object (members : List (String × Document))
  deriving Inhabited

inductive SyntaxFault where
  | unexpectedEnd
  | unexpectedCharacter
  | badNumber
  | numberOutOfRange
  | controlCharacter
  | badEscape
  | tooDeep
  | trailingCharacters
  deriving DecidableEq, Inhabited

/-- How strictly a value is read: one that is used must have numbers in range, paired surrogates and
a bounded depth, one that is skipped need not. -/
inductive Care where
  | used
  | skipped
  deriving DecidableEq

def readBlanks : List Char → List Char
  | [] => []
  | c :: rest =>
      if c = ' ' || c = '\n' || c = '\t' || c = '\r' then readBlanks rest else c :: rest

abbrev Parsed : Type → Type := Except SyntaxFault

end TableGateway.Json
