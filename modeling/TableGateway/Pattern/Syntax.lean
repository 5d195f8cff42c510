import TableGateway.Pattern.CharSet

/-!
# Regular expressions

The structure of a pattern once its flags are resolved: characters of a set, assertions about a
position, sequences, alternatives and repetitions. Which of several matches is preferred does not
matter to the question whether there is one, so greed has no place here.

A text that is no regular expression has one of the faults at the end.
-/

namespace TableGateway.Pattern

inductive WordKind where
  | unicode
  | ascii
  deriving DecidableEq, Inhabited

inductive Look where
  | textStart
  | textEnd
  | lineStart
  | lineEnd
  /-- The start of a line that a carriage return, a line feed or both end. -/
  | lineStartCrlf
  | lineEndCrlf
  | wordBoundary (kind : WordKind)
  | notWordBoundary (kind : WordKind)
  | wordStart (kind : WordKind)
  | wordEnd (kind : WordKind)
  | wordStartHalf (kind : WordKind)
  | wordEndHalf (kind : WordKind)
  deriving DecidableEq, Inhabited

def WordKind.holds : WordKind → Char → Bool
  | unicode, c => Text.isWordChar c
  | ascii, c => c.isAlphanum || c = '_'

def WordKind.at (kind : WordKind) : Option Char → Bool
  | some c => kind.holds c
  | none => false

/-- The assertion holds between the characters before and after a position, `none` at an end of
the text. -/
def Look.holds (before after : Option Char) : Look → Bool
  | textStart => before.isNone
  | textEnd => after.isNone
  | lineStart => before.isNone || before == some '\n'
  | lineEnd => after.isNone || after == some '\n'
  | lineStartCrlf =>
      before.isNone || before == some '\n' || (before == some '\r' && after != some '\n')
  | lineEndCrlf =>
      after.isNone || after == some '\r' || (after == some '\n' && before != some '\r')
  | wordBoundary kind => kind.at before != kind.at after
  | notWordBoundary kind => kind.at before == kind.at after
  | wordStart kind => !kind.at before && kind.at after
  | wordEnd kind => kind.at before && !kind.at after
  | wordStartHalf kind => !kind.at before
  | wordEndHalf kind => !kind.at after

inductive Regex where
  | empty
  /-- One character of a set. -/
  | one (set : CharSet)
  | look (look : Look)
  | seq (first second : Regex)
  | alt (left right : Regex)
  /-- At least `least` times, and at most `most` times when there is a bound. -/
  | rep (inner : Regex) (least : Nat) (most : Option Nat)
  deriving Inhabited

namespace Regex

/-- The expression can match the empty text only. -/
def isWidthless : Regex → Bool
  | empty => true
  | one _ => false
  | look _ => true
  | seq first second => first.isWidthless && second.isWidthless
  | alt left right => left.isWidthless && right.isWidthless
  | rep inner _ most => inner.isWidthless || most == some 0

/-- A repetition; what matches the empty text only is repeated at most once. -/
def repeated (inner : Regex) (least : Nat) (most : Option Nat) : Regex :=
  if inner.isWidthless then
    rep inner (min least 1) (some (match most with
      | some n => min n 1
      | none => 1))
  else rep inner least most

def sequence (parts : List Regex) : Regex :=
  match parts with
  | [] => empty
  | [part] => part
  | part :: rest => seq part (sequence rest)

def choice (branches : List Regex) : Regex :=
  match branches with
  | [] => empty
  | [branch] => branch
  | branch :: rest => alt branch (choice rest)

/-- An estimate of the octets that the compiled expression takes, as close to them as the weights of
its sets are. -/
def weight : Regex → Nat
  | empty => 32
  | one set => set.weight
  | look _ => 32
  | seq first second => first.weight + second.weight
  | alt left right => left.weight + right.weight + 8
  | rep inner least most =>
      match most with
      | some n => least * inner.weight + (n - least) * (inner.weight + 40)
      | none => (max least 1) * inner.weight + 40

end Regex

/-! ## Faults -/

inductive PatternFault where
  | unexpectedEnd
  | unknownEscape
  | backreference
  | badHexDigit
  | notACharacter
  | unknownProperty
  | unclosedClass
  | badClassItem
  | reversedRange
  | unclosedGroup
  | unopenedGroup
  | lookAround
  | badGroupName
  | duplicateGroupName
  | badFlags
  | nothingToRepeat
  | badCount
  /-- It could match in the middle of an encoded character. -/
  | notUtf8
  | tooDeep
  | tooLarge
  deriving DecidableEq, Inhabited

abbrev Checked : Type → Type := Except PatternFault

end TableGateway.Pattern
