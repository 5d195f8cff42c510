import TableGateway.Numeric.Digits
import TableGateway.Pattern.Syntax
import TableGateway.Pattern.Flags
import TableGateway.Pattern.Names

/-!
# Escapes

What may stand behind a backslash: a character that stands for itself, a control character, a
character by its number, a named set, or an assertion. With the flag that ignores blanks, blanks and
comments may stand between the parts of an escape too.
-/

namespace TableGateway.Pattern

open Numeric (hexValue? readHex?)

/-- Drops blanks, and comments from `#` to the end of the line; `inside` says that the text starts
in a comment. -/
def dropBlanks (inside : Bool) : List Char → List Char
  | [] => []
  | c :: rest =>
      if inside then dropBlanks (c != '\n') rest
      else if Text.isBlank c then dropBlanks false rest
      else if c = '#' then dropBlanks true rest
      else c :: rest

def Flags.skip (flags : Flags) (text : List Char) : List Char :=
  if flags.ignoreBlanks then dropBlanks false text else text

theorem length_dropBlanks_le (inside : Bool) (text : List Char) :
    (dropBlanks inside text).length ≤ text.length := by
  induction text generalizing inside with
  | nil => exact Nat.le_refl _
  | cons c rest ih =>
      unfold dropBlanks
      split
      · exact Nat.le_succ_of_le (ih _)
      · split
        · exact Nat.le_succ_of_le (ih _)
        · split
          · exact Nat.le_succ_of_le (ih _)
          · exact Nat.le_refl _

theorem Flags.length_skip_le (flags : Flags) (text : List Char) :
    (flags.skip text).length ≤ text.length := by
  unfold skip
  split
  · exact length_dropBlanks_le _ _
  · exact Nat.le_refl _

theorem Flags.length_lt_of_skip_eq {flags : Flags} {text rest : List Char} {c : Char}
    (h : flags.skip text = c :: rest) : rest.length < text.length := by
  have le := flags.length_skip_le text
  rw [h] at le
  exact le

inductive Atom where
  | literal (c : Char)
  | set (set : CharSet)
  | look (look : Look)
  deriving Inhabited

def takeUntil (flags : Flags) (close : Char) (text : List Char) :
    Checked (List Char × List Char) :=
  match h : flags.skip text with
  | [] => .error .unexpectedEnd
  | c :: rest =>
      have : rest.length < text.length := Flags.length_lt_of_skip_eq h
      if c = close then .ok ([], rest)
      else
        match takeUntil flags close rest with
        | .ok (taken, rest) => .ok (c :: taken, rest)
        | .error fault => .error fault
termination_by text.length

def takeHex (flags : Flags) : Nat → List Char → Checked (List Char × List Char)
  | 0, text => .ok ([], text)
  | _ + 1, [] => .error .unexpectedEnd
  | count + 1, c :: rest =>
      if (hexValue? c).isSome then
        match takeHex flags count (flags.skip rest) with
        | .ok (taken, rest) => .ok (c :: taken, rest)
        | .error fault => .error fault
      else .error .badHexDigit

def charOfHex (digits : List Char) : Checked Char :=
  match readHex? digits with
  | none => .error .badHexDigit
  | some n => if n.isValidChar then .ok (Char.ofNat n) else .error .notACharacter

/-- A character by its number, in braces or with `count` digits. Two digits without Unicode are an
octet, which must be an ASCII character. -/
def readNumber (flags : Flags) (count : Nat) (text : List Char) : Checked (Atom × List Char) := do
  match flags.skip text with
  | [] => .error .unexpectedEnd
  | '\x7b' :: rest =>
      let (digits, rest) ← takeUntil flags '\x7d' rest
      let c ← charOfHex digits
      return (.literal c, flags.skip rest)
  | text =>
      let (digits, rest) ← takeHex flags count text
      let c ← charOfHex digits
      if !flags.unicode && count == 2 && 0x80 ≤ c.toNat then .error .notUtf8
      else return (.literal c, rest)

/-- A set or its complement. Without Unicode a complement could match parts of a character. -/
def negatedIf (flags : Flags) (negated : Bool) (set : CharSet) : Checked CharSet :=
  if !negated then .ok set
  else if flags.unicode then .ok (.complement set)
  else .error .notUtf8

/-- The set of `\d`, `\s` or `\w`, or of its negation in a capital letter. -/
def shorthand (flags : Flags) (letter : Char) : Checked CharSet :=
  let set : CharSet := match letter.toLower, flags.unicode with
    | 'd', true => .digit
    | 'd', false => .named .digit
    | 's', true => .space
    | 's', false => .named .space
    | _, true => .word
    | _, false => .named .word
  negatedIf flags letter.isUpper set

/-- Splits a text at the first place where a condition holds of the rest. -/
def splitWhere (p : List Char → Bool) : List Char → Option (List Char × List Char)
  | [] => none
  | c :: rest =>
      if p (c :: rest) then some ([], c :: rest)
      else (splitWhere p rest).map fun parts => (c :: parts.1, parts.2)

/-- The set that a name in braces stands for, and whether it is negated: a bare name, or a property
and a value with `!=`, `:` or `=` between them. -/
def readPropertyName (name : List Char) : Option (CharSet × Bool) :=
  match splitWhere (fun text => text.take 2 == ['!', '=']) name with
  | some (property, rest) => (setValued? property (rest.drop 2)).map fun set => (set, true)
  | none =>
      match splitWhere (fun text => text.head? == some ':') name with
      | some (property, rest) => (setValued? property (rest.drop 1)).map fun set => (set, false)
      | none =>
          match splitWhere (fun text => text.head? == some '=') name with
          | some (property, rest) =>
              (setValued? property (rest.drop 1)).map fun set => (set, false)
          | none => (setNamed? name).map fun set => (set, false)

/-- The name of a property: in braces, or the one character that comes next. -/
def takePropertyName (flags : Flags) (text : List Char) : Checked (List Char × List Char) :=
  match flags.skip text with
  | [] => .error .unexpectedEnd
  | '\x7b' :: rest => takeUntil flags '\x7d' rest
  | '\\' :: _ => .error .unknownProperty
  | c :: rest => .ok ([c], flags.skip rest)

def readProperty (flags : Flags) (negated : Bool) (text : List Char) :
    Checked (CharSet × List Char) := do
  let (name, rest) ← takePropertyName flags text
  if !flags.unicode then .error .unknownProperty
  else
    match readPropertyName name with
    | none => .error .unknownProperty
    | some (set, flipped) =>
        let set ← negatedIf flags (negated != flipped) (flags.fold set)
        return (set, rest)

/-- Letters and hyphens, which the names of word assertions are made of. -/
def isWordNameChar (c : Char) : Bool :=
  c.isAlpha || c = '-'

def wordLook? (kind : WordKind) (name : List Char) : Option Look :=
  if name = "start".toList then some (.wordStart kind)
  else if name = "end".toList then some (.wordEnd kind)
  else if name = "start-half".toList then some (.wordStartHalf kind)
  else if name = "end-half".toList then some (.wordEndHalf kind)
  else none

def readWordLook (flags : Flags) (text : List Char) : Checked (Look × List Char) := do
  let (name, rest) ← takeUntil flags '\x7d' text
  match wordLook? flags.wordKind name with
  | some look => return (look, rest)
  | none => .error .unknownEscape

/-- The assertion of `\b`, with a name in braces or without. Braces that start otherwise are left
alone, as they may be a count. -/
def readBoundary (flags : Flags) (text : List Char) : Checked (Look × List Char) :=
  match text with
  | '\x7b' :: rest =>
      match flags.skip rest with
      | [] => .error .unexpectedEnd
      | c :: _ =>
          if isWordNameChar c then readWordLook flags rest
          else .ok (.wordBoundary flags.wordKind, text)
  | _ => .ok (.wordBoundary flags.wordKind, text)

def controlChar? : Char → Option Char
  | 'a' => some '\x07'
  | 'f' => some '\x0c'
  | 't' => some '\t'
  | 'n' => some '\n'
  | 'r' => some '\r'
  | 'v' => some '\x0b'
  | _ => none

/-- An ASCII character that stands for itself behind a backslash. -/
def isEscapable (c : Char) : Bool :=
  c.toNat < 0x80 && !c.isAlphanum && c != '<' && c != '>'

def readEscape (flags : Flags) : List Char → Checked (Atom × List Char)
  | [] => .error .unexpectedEnd
  | c :: rest =>
      if c.isDigit then .error .backreference
      else if isEscapable c then .ok (.literal c, rest)
      else
        match c with
        | 'x' => readNumber flags 2 rest
        | 'u' => readNumber flags 4 rest
        | 'U' => readNumber flags 8 rest
        | 'p' => (readProperty flags false rest).map fun read => (.set read.1, read.2)
        | 'P' => (readProperty flags true rest).map fun read => (.set read.1, read.2)
        | 'd' | 's' | 'w' | 'D' | 'S' | 'W' =>
            (shorthand flags c).map fun set => (.set set, rest)
        | 'A' => .ok (.look .textStart, rest)
        | 'z' => .ok (.look .textEnd, rest)
        | 'b' => (readBoundary flags rest).map fun read => (.look read.1, read.2)
        | 'B' => .ok (.look (.notWordBoundary flags.wordKind), rest)
        | '<' => .ok (.look (.wordStart flags.wordKind), rest)
        | '>' => .ok (.look (.wordEnd flags.wordKind), rest)
        | c =>
            match controlChar? c with
            | some control => .ok (.literal control, rest)
            | none => .error .unknownEscape

end TableGateway.Pattern
