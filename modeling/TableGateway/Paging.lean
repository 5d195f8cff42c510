import TableGateway.Numeric.Digits
import TableGateway.Text.Blank
import TableGateway.Text.Character

/-!
# Order and window of the selected rows

What follows the condition of a `SELECT`: an order and a window of rows, or a raw fragment of SQL.
`singleRow` narrows the window to its first row and leaves the order alone.
-/

namespace TableGateway

open Numeric (digits)

/-- An order and a window. A `pair` of offset and count wins over `start` and `limit`. -/
structure Window where
  orderBy : Option String
  pair : Option (Nat × Nat)
  start : Option Nat
  limit : Option Nat
  deriving DecidableEq, Inhabited

namespace Window

def unbounded : Window := ⟨none, none, none, none⟩

/-- The first row alone, in no order. -/
def first : Window := ⟨none, none, none, some 1⟩

def limitText (w : Window) : List Char :=
  match w.pair, w.start, w.limit with
  | some (offset, count), _, _ => " LIMIT ".toList ++ digits offset ++ ", ".toList ++ digits count
  | none, none, none => []
  | none, some start, some limit =>
      " LIMIT ".toList ++ digits start ++ ", ".toList ++ digits limit
  | none, some start, none => " LIMIT ".toList ++ digits start
  | none, none, some limit => " LIMIT ".toList ++ digits limit

def text (w : Window) : List Char :=
  (match w.orderBy with
    | some orderBy => " ORDER BY ".toList ++ orderBy.toList
    | none => []) ++ w.limitText

/-- The same order and offset, and one row. -/
def singleRow (w : Window) : Window :=
  match w.pair with
  | some (offset, _) => { w with pair := some (offset, 1) }
  | none => { w with limit := some 1 }

end Window

/-- What follows the condition of a `SELECT`. -/
inductive Paging where
  | unspecified
  /-- A fragment of SQL that is written as it is, behind a blank. -/
  | raw (sql : String)
  | window (window : Window)
  deriving DecidableEq, Inhabited

/-- The word `LIMIT` in any case stands in a text. -/
def mentionsLimit (sql : String) : Bool :=
  Text.hasWord "LIMIT".toList false sql.toList

/-- A fragment behind a blank of its own or a space. -/
def spaced : List Char → List Char
  | [] => []
  | c :: rest => if Text.isBlank c then c :: rest else ' ' :: c :: rest

namespace Paging

def isEmpty : Paging → Bool
  | unspecified => true
  | raw sql => sql.isEmpty
  | window w => w = .unbounded

def text : Paging → List Char
  | unspecified => []
  | raw sql => spaced sql.toList
  | window w => w.text

/-- The first row of the same selection. A raw fragment that mentions a limit is left alone. -/
def singleRow : Paging → Paging
  | unspecified => window .first
  | raw sql =>
      if mentionsLimit sql then raw sql
      else raw (String.ofList (Text.trimEnd sql.toList ++ " LIMIT 1".toList))
  | window w => window w.singleRow

end Paging

end TableGateway
