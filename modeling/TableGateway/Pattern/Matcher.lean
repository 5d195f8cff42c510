import TableGateway.Pattern.Syntax

/-!
# Matching

Sets of positions are natural numbers, position `i` being bit `i`. Against one text every set of
characters becomes the set of positions where such a character stands, and every assertion the set
of positions where it holds. An expression then takes the positions where a match may start to the
positions where it may end, so the time is linear in the text for every step of the expression.
-/

namespace TableGateway.Pattern

attribute [local instance (high)] instPowNat

/-- An expression against one text: where its sets and assertions hold is already looked up. -/
inductive Plan where
  | pass
  /-- Go one character on from these positions. -/
  | advance (positions : Nat)
  /-- Stay at these positions. -/
  | guard (positions : Nat)
  | seq (first second : Plan)
  | alt (left right : Plan)
  | rep (inner : Plan) (least : Nat) (most : Option Nat)

/-- The positions of the characters that satisfy a condition, counted on from the given one. -/
def positionsFrom (p : Char → Bool) : Nat → List Char → Nat
  | _, [] => 0
  | i, c :: rest => (if p c then 2 ^ i else 0) + positionsFrom p (i + 1) rest

/-- The positions where an assertion holds, `before` being the character in front of the text. -/
def looksFrom (look : Look) (i : Nat) (before : Option Char) : List Char → Nat
  | [] => if look.holds before none then 2 ^ i else 0
  | c :: rest =>
      (if look.holds before (some c) then 2 ^ i else 0) + looksFrom look (i + 1) (some c) rest

def Regex.plan (text : List Char) : Regex → Plan
  | empty => .pass
  | one set => .advance (positionsFrom set.contains 0 text)
  | look l => .guard (looksFrom l 0 none text)
  | seq first second => .seq (first.plan text) (second.plan text)
  | alt left right => .alt (left.plan text) (right.plan text)
  | rep inner least most => .rep (inner.plan text) least most

/-- Applies a step a number of times, as long as any position is left. -/
def times (step : Nat → Nat) : Nat → Nat → Nat
  | 0, positions => positions
  | count + 1, positions => if positions = 0 then 0 else times step count (step positions)

/-- The positions that up to `count` applications of a step reach, none of them included. -/
def upTo (step : Nat → Nat) : Nat → Nat → Nat
  | 0, positions => positions
  | count + 1, positions =>
      let reached := positions ||| step positions
      if reached = positions then positions else upTo step count reached

/-- The positions where a match may end that starts at one of the given positions, in a text of
`length` characters. -/
def Plan.reach (length : Nat) : Plan → Nat → Nat
  | pass, starts => starts
  | advance positions, starts => 2 * (starts &&& positions)
  | guard positions, starts => starts &&& positions
  | seq first second, starts => second.reach length (first.reach length starts)
  | alt left right, starts => left.reach length starts ||| right.reach length starts
  | rep inner least most, starts =>
      let first := times (inner.reach length) least starts
      match most with
      | some n => upTo (inner.reach length) (n - least) first
      | none => upTo (inner.reach length) (length + 1) first

/-- The expression matches somewhere in the text. -/
def Regex.isMatch (regex : Regex) (text : List Char) : Bool :=
  (regex.plan text).reach text.length (2 ^ (text.length + 1) - 1) != 0

end TableGateway.Pattern
