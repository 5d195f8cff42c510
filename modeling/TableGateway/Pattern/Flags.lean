import TableGateway.Pattern.Syntax

/-!
# Flags of a pattern

Flags change what the rest of a group means. A list of flags sets those before its hyphen and
clears those behind it.
-/

namespace TableGateway.Pattern

structure Flags where
  caseInsensitive : Bool
  multiLine : Bool
  dotAll : Bool
  unicode : Bool
  crlf : Bool
  ignoreBlanks : Bool
  deriving DecidableEq, Inhabited

def Flags.standard : Flags := ⟨false, false, false, true, false, false⟩

/-- A single flag. Swapped greed changes no answer. -/
inductive Flag where
  | caseInsensitive
  | multiLine
  | dotAll
  | swapGreed
  | unicode
  | crlf
  | ignoreBlanks
  deriving DecidableEq, Inhabited

def Flag.ofChar? : Char → Option Flag
  | 'i' => some caseInsensitive
  | 'm' => some multiLine
  | 's' => some dotAll
  | 'U' => some swapGreed
  | 'u' => some unicode
  | 'R' => some crlf
  | 'x' => some ignoreBlanks
  | _ => none

def Flags.put (flags : Flags) (value : Bool) : Flag → Flags
  | .caseInsensitive => { flags with caseInsensitive := value }
  | .multiLine => { flags with multiLine := value }
  | .dotAll => { flags with dotAll := value }
  | .swapGreed => flags
  | .unicode => { flags with unicode := value }
  | .crlf => { flags with crlf := value }
  | .ignoreBlanks => { flags with ignoreBlanks := value }

def Flags.putAll (flags : Flags) (changes : List (Flag × Bool)) : Flags :=
  changes.foldl (fun flags change => flags.put change.2 change.1) flags

def Flags.wordKind (flags : Flags) : WordKind :=
  if flags.unicode then .unicode else .ascii

def Flags.caret (flags : Flags) : Look :=
  if flags.multiLine then (if flags.crlf then .lineStartCrlf else .lineStart) else .textStart

def Flags.dollar (flags : Flags) : Look :=
  if flags.multiLine then (if flags.crlf then .lineEndCrlf else .lineEnd) else .textEnd

def Flags.dot (flags : Flags) : CharSet :=
  if flags.dotAll then .property .any
  else if flags.crlf then .complement (.union (.single '\n') (.single '\r'))
  else .complement (.single '\n')

/-- Closes a set under case when case does not count. -/
def Flags.fold (flags : Flags) (set : CharSet) : CharSet :=
  if !flags.caseInsensitive then set
  else if flags.unicode then .folded set
  else .asciiFolded set

def Flags.literal (flags : Flags) (c : Char) : CharSet :=
  if !flags.unicode && 0x80 ≤ c.toNat then .single c else flags.fold (.single c)

end TableGateway.Pattern
