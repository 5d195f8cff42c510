import TableGateway.Pattern.Class
import TableGateway.Pattern.Group
import TableGateway.Pattern.Matcher

/-!
# Reading patterns

A pattern is read from left to right with a stack of open groups. Every step takes at least one
character, a repetition takes what stands right before it, and flags hold to the end of the group
that they stand in. A pattern that nests too deeply or compiles to too much is refused.
-/

namespace TableGateway.Pattern

attribute [local instance (high)] instPowNat

/-- A part of a pattern, how deeply it nests, and whether it can be repeated. -/
structure Part where
  regex : Regex
  depth : Nat
  repeatable : Bool

/-- A group that is being read: the complete branches and the parts of the current one, both from
the last to the first. -/
structure Level where
  branches : List Part
  parts : List Part

/-- A pattern that is being read: the flags in force, the innermost group, and for each group
around it the flags and the group to go back to, with the names that are taken. -/
structure State where
  flags : Flags
  level : Level
  outer : List (Flags × Level)
  names : List (List Char)

def deepest (parts : List Part) : Nat :=
  parts.foldl (fun depth part => max depth part.depth) 0

/-- Several parts as one. Two or more nest one level deeper. -/
def joinParts (join : List Regex → Regex) (parts : List Part) : Part :=
  match parts with
  | [part] => part
  | parts =>
      ⟨join (parts.reverse.map Part.regex), if parts.isEmpty then 0 else deepest parts + 1,
        false⟩

def Level.branch (level : Level) : Part :=
  joinParts Regex.sequence level.parts

def Level.close (level : Level) : Part :=
  joinParts Regex.choice (level.branch :: level.branches)

def State.push (state : State) (part : Part) : State :=
  { state with level := { state.level with parts := part :: state.level.parts } }

def State.add (state : State) (regex : Regex) (depth : Nat) : State :=
  state.push ⟨regex, depth, true⟩

def State.open (state : State) (flags : Flags) : State :=
  { state with
    flags := flags
    level := ⟨[], []⟩
    outer := (state.flags, state.level) :: state.outer }

def State.split (state : State) : State :=
  { state with level := ⟨state.level.branch :: state.level.branches, []⟩ }

def State.close (state : State) : Checked State :=
  match state.outer with
  | [] => .error .unopenedGroup
  | (flags, level) :: outer =>
      let part := state.level.close
      .ok (({ state with flags := flags, level := level, outer := outer } : State).add
        part.regex (part.depth + 1))

def State.repeat (state : State) (least : Nat) (most : Option Nat) : Checked State :=
  match state.level.parts with
  | [] => .error .nothingToRepeat
  | part :: parts =>
      if part.repeatable then
        .ok (({ state with level := { state.level with parts := parts } } : State).add
          (part.regex.repeated least most) (part.depth + 1))
      else .error .nothingToRepeat

/-- Drops the mark of a repetition that prefers fewer rounds. -/
def dropLazy : List Char → List Char
  | '?' :: rest => rest
  | rest => rest

def atomRegex (flags : Flags) : Atom → Regex
  | .literal c => .one (flags.literal c)
  | .set set => .one set
  | .look look => .look look

def State.group (state : State) (text : List Char) : Checked (State × List Char) := do
  let (head, rest) ← readGroupHead state.flags text
  match head with
  | .directive flags =>
      return ({ state with flags := flags }.push ⟨.empty, 0, false⟩, rest)
  | .plain flags => return (state.open flags, rest)
  | .named name =>
      if state.names.contains name then .error .duplicateGroupName
      else return ({ state with names := name :: state.names }.open state.flags, rest)

def State.count (state : State) (text : List Char) : Checked (State × List Char) := do
  let ((least, most), rest) ← readCounts state.flags text
  let state ← state.repeat least most
  return (state, dropLazy (state.flags.skip rest))

def State.stepAt (state : State) (c : Char) (rest : List Char) : Checked (State × List Char) :=
  match c with
  | '(' => state.group rest
  | ')' => state.close.map fun state => (state, rest)
  | '|' => .ok (state.split, rest)
  | '[' =>
      (readClass state.flags rest).map fun read =>
        (state.add (.one read.1.1) read.1.2, read.2)
  | '?' => (state.repeat 0 (some 1)).map fun state => (state, dropLazy rest)
  | '*' => (state.repeat 0 none).map fun state => (state, dropLazy rest)
  | '+' => (state.repeat 1 none).map fun state => (state, dropLazy rest)
  | '\x7b' => state.count rest
  | '\\' =>
      (readEscape state.flags rest).map fun read =>
        (state.add (atomRegex state.flags read.1) 0, read.2)
  | '.' =>
      if state.flags.unicode then .ok (state.add (.one state.flags.dot) 0, rest)
      else .error .notUtf8
  | '^' => .ok (state.add (.look state.flags.caret) 0, rest)
  | '$' => .ok (state.add (.look state.flags.dollar) 0, rest)
  | c => .ok (state.add (.one (state.flags.literal c)) 0, rest)

def State.step (state : State) : List Char → Checked (State × List Char)
  | [] => .error .unexpectedEnd
  | c :: rest => state.stepAt c rest

def maxDepth : Nat := 250

/-- The greatest number of octets that a compiled pattern may take. -/
def maxWeight : Nat := 10 * 2 ^ (20 : Nat)

def State.finish (state : State) : Checked Regex :=
  match state.outer with
  | _ :: _ => .error .unclosedGroup
  | [] =>
      let part := state.level.close
      if maxDepth < part.depth then .error .tooDeep
      else if maxWeight < part.regex.weight then .error .tooLarge
      else .ok part.regex

def State.run (state : State) (text : List Char) : Checked Regex :=
  match state.flags.skip text with
  | [] => state.finish
  | c :: rest =>
      match state.step (c :: rest) with
      | .error fault => .error fault
      | .ok (state, rest) =>
          if rest.length < text.length then state.run rest else .error .unexpectedEnd
termination_by text.length

/-- The expression that a pattern writes. -/
def read (pattern : String) : Checked Regex :=
  State.run ⟨Flags.standard, ⟨[], []⟩, [], []⟩ pattern.toList

/-- The pattern between anchors, pasted into a group as text. -/
def anchored (pattern : String) : String :=
  "^(?:" ++ pattern ++ ")$"

end TableGateway.Pattern
