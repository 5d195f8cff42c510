import TableGateway.Unicode.Category
import TableGateway.Unicode.Property

/-!
# Words and quoted texts

A word character is a letter, a mark, a decimal digit, a connecting punctuation or one of the two
joiners. A whole word is a run of characters with no word character next to either end.

Messages and log lines show a text between double quotes on one line: quotes, backslashes and
control characters are escaped, and so is every character that would be invisible or would join
the one before it.
-/

namespace TableGateway.Text

open Unicode (category isAlphabetic isGraphemeExtend)

/-! ## Words -/

def isWordChar (c : Char) : Bool :=
  if c.toNat < 0x80 then c.isAlphanum || c = '_'
  else
    isAlphabetic c || c = '\u200c' || c = '\u200d' ||
      match category c with
      | .nonspacingMark | .spacingMark | .enclosingMark => true
      | .decimalNumber | .connectorPunctuation => true
      | _ => false

def isWordEnd : List Char → Bool
  | [] => true
  | c :: _ => !isWordChar c

/-- What follows an ASCII word in capital letters at the front of a text, in whatever case. -/
def afterWord? : List Char → List Char → Option (List Char)
  | [], text => some text
  | _ :: _, [] => none
  | w :: word, c :: text => if c.toUpper = w then afterWord? word text else none

/-- The ASCII word, given in capital letters, stands in the text as a whole word. `joined` says
that a word character precedes the text. -/
def hasWord (word : List Char) (joined : Bool) : List Char → Bool
  | [] => false
  | c :: rest =>
      (!joined &&
        match afterWord? word (c :: rest) with
        | some after => isWordEnd after
        | none => false) ||
        hasWord word (isWordChar c) rest

/-! ## Quotes -/

/-- A character with a shape or the plain space. -/
def isPrintable (c : Char) : Bool :=
  if c.toNat < 0x7f then decide (' ' ≤ c)
  else
    match category c with
    | .control | .format | .surrogate | .privateUse | .unassigned => false
    | .spaceSeparator | .lineSeparator | .paragraphSeparator => false
    | _ => true

def quoteChar (c : Char) : List Char :=
  if c = '"' then ['\\', '"']
  else if c = '\\' then ['\\', '\\']
  else if c = '\n' then ['\\', 'n']
  else if c = '\r' then ['\\', 'r']
  else if c = '\t' then ['\\', 't']
  else if c = '\x00' then ['\\', '0']
  else if isPrintable c && !isGraphemeExtend c then [c]
  else ['\\', 'u', '\x7b'] ++ Nat.toDigits 16 c.toNat ++ ['\x7d']

def quoted (text : List Char) : List Char :=
  '"' :: text.flatMap quoteChar ++ ['"']

end TableGateway.Text
