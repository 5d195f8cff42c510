import TableGateway.Text.Blank
import TableGateway.Text.Character
import TableGateway.Unicode.CaseFold
import TableGateway.Unicode.ScriptExtension

/-!
# Sets of characters

What a class of a pattern holds, as an expression: ranges, the named sets and properties, and the
operations on sets. `contains` decides membership.
-/

namespace TableGateway.Pattern

open Unicode (Category caseOrbit category isAlphabetic isEmoji isLowercase isUppercase script)

inductive AsciiClass where
  | alnum
  | alpha
  | ascii
  | blank
  | cntrl
  | digit
  | graph
  | lower
  | print
  | punct
  | space
  | upper
  | word
  | xdigit
  deriving DecidableEq, Inhabited

namespace AsciiClass

def ranges : AsciiClass → List (Char × Char)
  | alnum => [('0', '9'), ('A', 'Z'), ('a', 'z')]
  | alpha => [('A', 'Z'), ('a', 'z')]
  | ascii => [('\x00', '\x7f')]
  | blank => [('\t', '\t'), (' ', ' ')]
  | cntrl => [('\x00', '\x1f'), ('\x7f', '\x7f')]
  | digit => [('0', '9')]
  | graph => [('!', '~')]
  | lower => [('a', 'z')]
  | print => [(' ', '~')]
  | punct => [('!', '/'), (':', '@'), ('[', '\x60'), ('\x7b', '~')]
  | space => [('\t', '\r'), (' ', ' ')]
  | upper => [('A', 'Z')]
  | word => [('0', '9'), ('A', 'Z'), ('_', '_'), ('a', 'z')]
  | xdigit => [('0', '9'), ('A', 'F'), ('a', 'f')]

def ofName? : String → Option AsciiClass
  | "alnum" => some alnum
  | "alpha" => some alpha
  | "ascii" => some ascii
  | "blank" => some blank
  | "cntrl" => some cntrl
  | "digit" => some digit
  | "graph" => some graph
  | "lower" => some lower
  | "print" => some print
  | "punct" => some punct
  | "space" => some space
  | "upper" => some upper
  | "word" => some word
  | "xdigit" => some xdigit
  | _ => none

end AsciiClass

inductive Property where
  | alphabetic
  | lowercase
  | uppercase
  | blank
  | emoji
  | ascii
  | any
  | assigned
  deriving DecidableEq, Inhabited

def Property.holds : Property → Char → Bool
  | alphabetic, c => isAlphabetic c
  | lowercase, c => isLowercase c
  | uppercase, c => isUppercase c
  | blank, c => Text.isBlank c
  | emoji, c => isEmoji c
  | ascii, c => decide (c.toNat < 0x80)
  | any, _ => true
  | assigned, c => category c ≠ .unassigned

inductive SetOperation where
  | intersection
  | difference
  | symmetricDifference
  deriving DecidableEq, Inhabited

inductive CharSet where
  | empty
  | range (first last : Char)
  | named (name : AsciiClass)
  | digit
  | space
  | word
  | property (property : Property)
  | categories (members : List Category)
  | script (code : String)
  /-- The characters that are used with a script. -/
  | usedWith (code : String)
  | union (left right : CharSet)
  | join (operation : SetOperation) (left right : CharSet)
  | complement (set : CharSet)
  /-- Everything equal to a member without regard to case. -/
  | folded (set : CharSet)
  /-- Everything equal to a member without regard to the case of ASCII letters. -/
  | asciiFolded (set : CharSet)
  deriving Inhabited

namespace CharSet

def single (c : Char) : CharSet := range c c

/-- A decimal digit of any script. -/
def isDigit (c : Char) : Bool :=
  if c.toNat < 0x80 then c.isDigit else category c = .decimalNumber

/-- The other case of an ASCII letter, any other character itself. -/
def swapAsciiCase (c : Char) : Char :=
  if c.isUpper then c.toLower else c.toUpper

def contains : CharSet → Char → Bool
  | empty, _ => false
  | range first last, c => first ≤ c && c ≤ last
  | named name, c => name.ranges.any fun r => r.1 ≤ c && c ≤ r.2
  | digit, c => isDigit c
  | space, c => Text.isBlank c
  | word, c => Text.isWordChar c
  | property p, c => p.holds c
  | categories members, c => members.contains (category c)
  | script code, c => Unicode.script c == code
  | usedWith code, c => Unicode.isUsedWith code c
  | union left right, c => left.contains c || right.contains c
  | join .intersection left right, c => left.contains c && right.contains c
  | join .difference left right, c => left.contains c && !right.contains c
  | join .symmetricDifference left right, c => left.contains c != right.contains c
  | complement set, c => !set.contains c
  | folded set, c => (caseOrbit c).any set.contains
  | asciiFolded set, c => set.contains c || set.contains (swapAsciiCase c)

/-- An estimate of the octets that a compiled set takes. A set of many ranges of long characters
takes more than one of ASCII characters. Near the limit an expression may be accepted here that is
refused where the compiled form itself is measured, or the other way round. -/
def weight : CharSet → Nat
  | empty => 32
  | range _ last => if last.toNat < 0x80 then 32 else 150
  | named _ => 48
  | digit => 4500
  | space => 700
  | word => 55000
  | property .ascii => 32
  | property .any => 400
  | property .blank => 700
  | property _ => 45000
  | categories members => 12000 * members.length
  | script _ | usedWith _ => 2000
  | union left right => left.weight + right.weight
  | join _ left right => left.weight + right.weight
  | complement set => set.weight + 400
  | folded set => 2 * set.weight
  | asciiFolded set => 2 * set.weight

end CharSet

end TableGateway.Pattern
