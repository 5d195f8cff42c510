import TableGateway.Pattern.Escape

/-!
# Groups and counts

What may stand behind an opening parenthesis, and the counts of a repetition in braces.
-/

namespace TableGateway.Pattern

attribute [local instance (high)] instPowNat

inductive GroupHead where
  /-- Flags for the rest of the enclosing group; nothing is opened. -/
  | directive (flags : Flags)
  /-- A group with flags of its own. -/
  | plain (flags : Flags)
  /-- A group with a name. -/
  | named (name : List Char)

/-- The flags up to `:` or `)`, each with whether it is set; `setting` says that no hyphen came
yet and `dangling` that one came last. -/
def readFlags (changes : List (Flag × Bool)) (setting dangling : Bool) :
    List Char → Checked ((List (Flag × Bool) × Char) × List Char)
  | [] => .error .unexpectedEnd
  | c :: rest =>
      if c = ':' || c = ')' then
        if dangling then .error .badFlags else .ok ((changes.reverse, c), rest)
      else if c = '-' then
        if setting then readFlags changes false true rest else .error .badFlags
      else
        match Flag.ofChar? c with
        | none => .error .badFlags
        | some flag =>
            if changes.any fun change => change.1 = flag then .error .badFlags
            else readFlags ((flag, setting) :: changes) setting false rest

def isNameStart (c : Char) : Bool :=
  c = '_' || Unicode.isAlphabetic c

def isNameChar (c : Char) : Bool :=
  isNameStart c || c = '.' || c = '[' || c = ']' ||
    match Unicode.category c with
    | .decimalNumber | .letterNumber | .otherNumber => true
    | _ => false

def readName (text : List Char) : Checked (List Char × List Char) :=
  let name := text.takeWhile (· != '>')
  match text.dropWhile (· != '>') with
  | _ :: rest =>
      match name with
      | [] => .error .badGroupName
      | c :: more =>
          if isNameStart c && more.all isNameChar then .ok (name, rest) else .error .badGroupName
  | [] => .error .badGroupName

/-- A name behind `<`, which must not start an assertion about what comes before. -/
def readNamedHead (text : List Char) : Checked (GroupHead × List Char) :=
  match text with
  | '=' :: _ => .error .lookAround
  | '!' :: _ => .error .lookAround
  | rest => (readName rest).map fun read => (.named read.1, read.2)

/-- Flags, for a group of their own or for the rest of the enclosing one. -/
def readFlaggedHead (flags : Flags) (text : List Char) : Checked (GroupHead × List Char) := do
  let ((changes, close), rest) ← readFlags [] true false text
  if close = ')' then
    if changes.isEmpty then .error .nothingToRepeat
    else return (.directive (flags.putAll changes), rest)
  else return (.plain (flags.putAll changes), rest)

def readMarkedHead (flags : Flags) (text : List Char) : Checked (GroupHead × List Char) :=
  match text with
  | '=' :: _ => .error .lookAround
  | '!' :: _ => .error .lookAround
  | '<' :: rest => readNamedHead rest
  | 'P' :: '<' :: rest => (readName rest).map fun read => (.named read.1, read.2)
  | rest => readFlaggedHead flags rest

def readGroupHead (flags : Flags) (text : List Char) : Checked (GroupHead × List Char) :=
  match flags.skip text with
  | '?' :: rest => readMarkedHead flags rest
  | rest => .ok (.plain flags, rest)

def takeDigits (flags : Flags) (text : List Char) : List Char × List Char :=
  match text with
  | [] => ([], [])
  | c :: rest =>
      if c.isDigit then
        let (digits, rest) := takeDigits flags (flags.skip rest)
        (c :: digits, rest)
      else ([], c :: rest)
termination_by text.length
decreasing_by exact Nat.lt_succ_of_le (flags.length_skip_le rest)

/-- The number that digits write, none when there are no digits. It has at most 32 bits. -/
def countOf (digits : List Char) : Checked (Option Nat) :=
  match Numeric.readDigits? digits with
  | none => .ok none
  | some n => if n < 2 ^ (32 : Nat) then .ok (some n) else .error .badCount

def readCount (flags : Flags) (text : List Char) : Checked (Option Nat × List Char) :=
  let (digits, rest) := takeDigits flags (text.dropWhile Text.isBlank)
  (countOf digits).map fun count => (count, flags.skip (rest.dropWhile Text.isBlank))

/-- The closing brace behind the greatest count, which is not below the least one. -/
def closeCounts (least : Nat) (most? : Option Nat) (text : List Char) :
    Checked ((Nat × Option Nat) × List Char) :=
  match most?, text with
  | some most, '\x7d' :: rest =>
      if least ≤ most then .ok ((least, some most), rest) else .error .badCount
  | _, _ => .error .badCount

def readMost (flags : Flags) (least : Nat) (text : List Char) :
    Checked ((Nat × Option Nat) × List Char) :=
  match flags.skip text with
  | '\x7d' :: rest => .ok ((least, none), rest)
  | rest => do
      let (most?, rest) ← readCount flags rest
      closeCounts least most? rest

def readCounts (flags : Flags) (text : List Char) : Checked ((Nat × Option Nat) × List Char) := do
  let (least?, rest) ← readCount flags (flags.skip text)
  match least?, rest with
  | some least, '\x7d' :: rest => return ((least, some least), rest)
  | some least, ',' :: rest => readMost flags least rest
  | _, _ => .error .badCount

end TableGateway.Pattern
