import TableGateway.Text.Slice

/-!
# Substituted characters

One character of a text gives way to a replacement wherever it stands. With the character itself
written twice as the replacement this is the way SQL keeps a quote inside a quoted text. The same
is written piece by piece: what stands between two occurrences is copied as one slice of the text.
-/

namespace TableGateway.Text

/-- Writes `replacement` for every `search`, and every other character as it is. -/
def substitute (search : Char) (replacement : List Char) : List Char → List Char
  | [] => []
  | c :: rest =>
      (if c = search then replacement else [c]) ++ substitute search replacement rest

def double (mark : Char) : List Char → List Char :=
  substitute mark [mark, mark]

/-- A text on its way into another one: what stands in front of `position` is written. -/
structure Copying where
  position : String.Pos.Raw
  out : String

/-- Goes past a character. An occurrence of `search` ends a piece, which is copied with the
replacement behind it. -/
def Copying.step? (text : String) (search : Char) (replacement : String) (state : Copying)
    (place : String.Pos.Raw × Char) : Option Copying :=
  if place.2 = search then
    (slice? text state.position place.1).map fun piece =>
      ⟨place.1 + place.2, state.out ++ piece ++ replacement⟩
  else some state

/-- Goes past the characters that a text starts with, and has written to `out` since. -/
def copying? (text : String) (search : Char) (replacement out : String) (passed : List Char) :
    Option Copying :=
  (located 0 passed).foldlM (Copying.step? text search replacement) ⟨0, out⟩

def Copying.finish? (text : String) (state : Copying) : Option String :=
  (slice? text state.position text.rawEndPos).map fun piece => state.out ++ piece

/-- Appends a text with `replacement` for every `search`, one slice after the other. -/
def appendSubstituted? (out text : String) (search : Char) (replacement : String) :
    Option String :=
  (copying? text search replacement out text.toList).bind (Copying.finish? text)

@[simp] theorem substitute_nil (search : Char) (replacement : List Char) :
    substitute search replacement [] = [] := rfl

theorem substitute_append (search : Char) (replacement first second : List Char) :
    substitute search replacement (first ++ second) =
      substitute search replacement first ++ substitute search replacement second := by
  induction first with
  | nil => rfl
  | cons c rest ih => simp [substitute, ih]

end TableGateway.Text
