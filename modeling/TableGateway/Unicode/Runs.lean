/-!
# Runs of code points

A table of a Unicode property is written as runs: how many consecutive code points, then a code for
what holds on them, starting from code point zero (`65-26+` is 65 code points outside, 26 inside).
Looking a code point up is a binary search for the last run that starts at it or before it.
-/

namespace TableGateway.Unicode

/-- A run of code points that share a value. -/
structure Run (α : Type) where
  start : Nat
  value : α

/-- Splits a table into counted codes: the count so far, the code so far in reverse, and the runs
from code point `start` on. -/
def scanRuns (decode : List Char → α) (start count : Nat) (code : List Char) :
    List Char → List (Run α)
  | [] => if code.isEmpty then [] else [⟨start, decode code.reverse⟩]
  | c :: rest =>
      if c.isDigit then
        if code.isEmpty then
          scanRuns decode start (count * 10 + (c.toNat - '0'.toNat)) [] rest
        else
          ⟨start, decode code.reverse⟩ ::
            scanRuns decode (start + count) (c.toNat - '0'.toNat) [] rest
      else scanRuns decode start count (c :: code) rest

def readRuns (decode : List Char → α) (lines : List String) : Array (Run α) :=
  (scanRuns decode 0 0 [] (lines.flatMap String.toList)).toArray

/-- The last of the runs from `low` up to but not including `high` that starts at `code` or before
it, given that run `low` does. -/
def searchRuns (runs : Array (Run α)) (code low high : Nat) : Option α :=
  if low + 1 < high then
    let middle := (low + high) / 2
    match runs[middle]? with
    | some run =>
        if run.start ≤ code then searchRuns runs code middle high
        else searchRuns runs code low middle
    | none => none
  else (runs[low]?).map Run.value
termination_by high - low

def lookUp (runs : Array (Run α)) (code : Nat) : Option α :=
  searchRuns runs code 0 runs.size

/-- Reads a table of one property, with `+` on the runs that have it. -/
def readMembers (lines : List String) : Array (Run Bool) :=
  readRuns (fun code => code == ['+']) lines

def inRuns (runs : Array (Run Bool)) (c : Char) : Bool :=
  (lookUp runs c.toNat).getD false

end TableGateway.Unicode
