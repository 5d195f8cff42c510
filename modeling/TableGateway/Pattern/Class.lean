import TableGateway.Pattern.Escape

/-!
# Classes in brackets

A class holds characters, ranges, named sets and further classes, and joins sets by the operations
`&&`, `--` and `~~`, all of one rank and taken from the left. A set is closed under case before it
is negated.
-/

namespace TableGateway.Pattern

/-- What a class is read inside of. -/
inductive ClassFrame where
  /-- An open bracket, with what was read before it. -/
  | bracket (outer : CharSet) (negated : Bool)
  /-- The left operand of an operation. -/
  | operand (operation : SetOperation) (left : CharSet)

/-- A class that is being read: the frames around, and the union of the items so far. -/
structure ClassState where
  frames : List ClassFrame
  items : CharSet

def ClassState.add (state : ClassState) (set : CharSet) : ClassState :=
  { state with items := .union state.items set }

/-- A literal hyphen for each one that a class starts with. -/
def takeHyphens (flags : Flags) (text : List Char) : Bool × List Char :=
  match h : flags.skip text with
  | '-' :: rest =>
      have : rest.length < text.length := Flags.length_lt_of_skip_eq h
      (true, (takeHyphens flags rest).2)
  | text => (false, text)
termination_by text.length

/-- Whether a class is negated. -/
def takeCaret (flags : Flags) (text : List Char) : Bool × List Char :=
  match flags.skip text with
  | '^' :: rest => (true, rest)
  | text => (false, text)

/-- The items that only stand for themselves at the beginning of a class, with the hyphens that were
taken before. There must be more to come. -/
def openItems (flags : Flags) (hyphens : Bool) (text : List Char) : Checked (CharSet × List Char) :=
  match text with
  | [] => .error .unclosedClass
  | c :: rest =>
      if hyphens then .ok (.single '-', text)
      else if c = ']' then
        match flags.skip rest with
        | [] => .error .unclosedClass
        | rest => .ok (.single ']', rest)
      else .ok (.empty, text)

/-- The beginning of a class behind its bracket: whether it is negated, the items that only stand
for themselves there, and the rest. -/
def openClass (flags : Flags) (text : List Char) : Checked ((Bool × CharSet) × List Char) :=
  let (negated, text) := takeCaret flags text
  let (hyphens, text) := takeHyphens flags text
  (openItems flags hyphens text).map fun read => ((negated, read.1), read.2)

/-- The name of an ASCII class up to `:]`. -/
def asciiName? (text : List Char) : Option (AsciiClass × List Char) :=
  match text.dropWhile (· != ':') with
  | ':' :: ']' :: rest =>
      (AsciiClass.ofName? (String.ofList (text.takeWhile (· != ':')))).map fun found =>
        (found, rest)
  | _ => none

/-- An ASCII class such as `[:alpha:]` without its first bracket, with whether it is negated, when
the text starts with one. -/
def asciiClass? (text : List Char) : Option ((AsciiClass × Bool) × List Char) :=
  match text with
  | ':' :: '^' :: rest => (asciiName? rest).map fun read => ((read.1, true), read.2)
  | ':' :: rest => (asciiName? rest).map fun read => ((read.1, false), read.2)
  | _ => none

/-- One item of a class: an escape, or a character that stands for itself. -/
def readClassAtom (flags : Flags) : List Char → Checked (Atom × List Char)
  | [] => .error .unclosedClass
  | '\\' :: rest => readEscape flags rest
  | c :: rest => .ok (.literal c, rest)

/-- A character of a class. Without Unicode it must be an ASCII character. -/
def classLiteral (flags : Flags) (c : Char) : Checked Char :=
  if flags.unicode || c.toNat < 0x80 then .ok c else .error .notUtf8

def atomSet (flags : Flags) : Atom → Checked CharSet
  | .literal c => (classLiteral flags c).map .single
  | .set set => .ok set
  | .look _ => .error .badClassItem

def atomEnd (flags : Flags) : Atom → Checked Char
  | .literal c => classLiteral flags c
  | _ => .error .badClassItem

/-- The next character behind the first one, where a comment counts as far as its mark. -/
def peekBehind (flags : Flags) (text : List Char) : Option Char :=
  if flags.ignoreBlanks then
    match text.tail.dropWhile Text.isBlank with
    | '#' :: rest => (rest.dropWhile Text.isBlank).head?
    | rest => rest.head?
  else text.tail.head?

/-- The hyphen that the text starts with makes no range, as `]` or another hyphen follows. -/
def isLoneHyphen (flags : Flags) (text : List Char) : Bool :=
  let next := peekBehind flags text
  next == some ']' || next == some '-'

def readRangeEnd (flags : Flags) (first : Atom) (text : List Char) :
    Checked (CharSet × List Char) := do
  let (second, rest) ← readClassAtom flags text
  let low ← atomEnd flags first
  let high ← atomEnd flags second
  if low ≤ high then return (.range low high, rest) else .error .reversedRange

/-- The range that starts with an item, or the item alone. There must be more to come. -/
def readRangeBehind (flags : Flags) (first : Atom) (text : List Char) :
    Checked (CharSet × List Char) :=
  match flags.skip text with
  | [] => .error .unclosedClass
  | '-' :: rest =>
      if isLoneHyphen flags ('-' :: rest) then
        (atomSet flags first).map fun set => (set, '-' :: rest)
      else readRangeEnd flags first (flags.skip rest)
  | rest => (atomSet flags first).map fun set => (set, rest)

def readRange (flags : Flags) (text : List Char) : Checked (CharSet × List Char) := do
  let (first, rest) ← readClassAtom flags text
  readRangeBehind flags first rest

def closeOperand (flags : Flags) (frames : List ClassFrame) (right : CharSet) :
    List ClassFrame × CharSet :=
  match frames with
  | .operand operation left :: frames =>
      (frames, .join operation (flags.fold left) (flags.fold right))
  | frames => (frames, right)

def ClassState.operate (flags : Flags) (state : ClassState) (operation : SetOperation) :
    ClassState :=
  let (frames, left) := closeOperand flags state.frames state.items
  ⟨.operand operation left :: frames, .empty⟩

/-- Where a class stands after a step: still open, or complete. -/
inductive ClassStep where
  | opened (state : ClassState)
  | closed (set : CharSet)

def ClassState.close (flags : Flags) (state : ClassState) : Checked ClassStep :=
  let (frames, set) := closeOperand flags state.frames state.items
  match frames with
  | .bracket outer negated :: frames => do
      let set ← negatedIf flags negated (flags.fold set)
      if frames.isEmpty then return .closed set
      else return .opened ⟨frames, .union outer set⟩
  | _ => .error .unclosedClass

def ClassState.open (flags : Flags) (state : ClassState) (text : List Char) :
    Checked (ClassStep × List Char) := do
  let ((negated, items), rest) ← openClass flags text
  return (.opened ⟨.bracket state.items negated :: state.frames, items⟩, rest)

def setOperation? : List Char → Option (SetOperation × List Char)
  | '&' :: '&' :: rest => some (.intersection, rest)
  | '-' :: '-' :: rest => some (.difference, rest)
  | '~' :: '~' :: rest => some (.symmetricDifference, rest)
  | _ => none

/-- One step of a class behind an inner bracket: a named class, or a class of its own. -/
def ClassState.stepInto (flags : Flags) (state : ClassState) (text : List Char) :
    Checked (ClassStep × List Char) :=
  match asciiClass? text with
  | some ((found, negated), rest) =>
      (negatedIf flags negated (flags.fold (.named found))).map fun set =>
        (.opened (state.add set), rest)
  | none => state.open flags text

/-- One step of a class that starts with no bracket: an operation, or an item. -/
def ClassState.stepOver (flags : Flags) (state : ClassState) (text : List Char) :
    Checked (ClassStep × List Char) :=
  match setOperation? text with
  | some (operation, rest) => .ok (.opened (state.operate flags operation), rest)
  | none => (readRange flags text).map fun read => (.opened (state.add read.1), read.2)

def ClassState.step (flags : Flags) (state : ClassState) :
    List Char → Checked (ClassStep × List Char)
  | [] => .error .unclosedClass
  | '[' :: rest => state.stepInto flags rest
  | ']' :: rest => (state.close flags).map fun step => (step, rest)
  | text => state.stepOver flags text

/-- Reads on until the outermost bracket closes. The nesting of brackets comes with the set. -/
def ClassState.run (flags : Flags) (depth : Nat) (state : ClassState) (text : List Char) :
    Checked ((CharSet × Nat) × List Char) :=
  match state.step flags (flags.skip text) with
  | .error fault => .error fault
  | .ok (.closed set, rest) => .ok ((set, depth), rest)
  | .ok (.opened state, rest) =>
      if rest.length < text.length then
        state.run flags (max depth state.frames.length) rest
      else .error .unclosedClass
termination_by text.length

def readClass (flags : Flags) (text : List Char) : Checked ((CharSet × Nat) × List Char) := do
  let ((negated, items), rest) ← openClass flags text
  ClassState.run flags 1 ⟨[.bracket .empty negated], items⟩ rest

end TableGateway.Pattern
