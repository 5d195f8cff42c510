import TableGateway.Json.Basic

/-!
# JSON texts

A text between double quotes, with escapes. A character beyond the first 65536 may be escaped as a
pair of surrogates; a text that is used has no surrogate without its other half.
-/

namespace TableGateway.Json

open Numeric (readHex?)

def hexUnit? (a b c d : Char) : Option Nat :=
  readHex? [a, b, c, d]

def escaped? : Char → Option Char
  | '"' => some '"'
  | '\\' => some '\\'
  | '/' => some '/'
  | 'b' => some '\x08'
  | 'f' => some '\x0c'
  | 'n' => some '\n'
  | 'r' => some '\r'
  | 't' => some '\t'
  | _ => none

/-- The first half of a pair. -/
def isLeading (unit : Nat) : Bool := 0xd800 ≤ unit && unit < 0xdc00

def isTrailing (unit : Nat) : Bool := 0xdc00 ≤ unit && unit < 0xe000

def consRead (c : Char) (read : Parsed (List Char × List Char)) :
    Parsed (List Char × List Char) :=
  read.map fun parts => (c :: parts.1, parts.2)

/-- Reads a text behind its first quote. -/
def readString (care : Care) : List Char → Parsed (List Char × List Char)
  | [] => .error .unexpectedEnd
  | '"' :: rest => .ok ([], rest)
  | '\\' :: 'u' :: a :: b :: c :: d :: rest =>
      match hexUnit? a b c d with
      | none => .error .badEscape
      | some unit =>
          if care = .skipped then readString care rest
          else if isTrailing unit then .error .badEscape
          else if isLeading unit then
            match rest with
            | '\\' :: 'u' :: e :: f :: g :: h :: rest =>
                match hexUnit? e f g h with
                | some second =>
                    if isTrailing second then
                      consRead
                        (Char.ofNat (0x10000 + (unit - 0xd800) * 0x400 + (second - 0xdc00)))
                        (readString care rest)
                    else .error .badEscape
                | none => .error .badEscape
            | _ => .error .badEscape
          else consRead (Char.ofNat unit) (readString care rest)
  | '\\' :: c :: rest =>
      match escaped? c with
      | some c => consRead c (readString care rest)
      | none => .error .badEscape
  | c :: rest =>
      if c < ' ' then .error .controlCharacter else consRead c (readString care rest)

end TableGateway.Json
