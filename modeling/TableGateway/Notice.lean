import TableGateway.Condition.Basic

/-!
# Notices

What the gateway reports besides its results, as data: each notice has a level and a wording.
-/

namespace TableGateway

open Numeric (Binary64 FloatStyle)

inductive Level where
  | debug
  | warn
  | error
  deriving DecidableEq, Inhabited

inductive Notice where
  /-- A number that SQL has no literal for is written as null. -/
  | nonFinite (x : Binary64)
  /-- A key or a raw fragment gave way to a clause. -/
  | conditionReplaced (condition : Condition)
  | validationFailed (violations : Violations)
  /-- A statement goes to the driver of this name. -/
  | statement (driver : String) (sql : String)
  | updatingEveryRow (table : String)
  | deletingEveryRow (table : String)
  /-- The driver answered with an error. -/
  | driverError (message : String)
  | callbackPanicked
  /-- A cell of a row could not be decoded. -/
  | undecodableColumn (column cell : String)
  deriving Inhabited

namespace Notice

def level : Notice → Level
  | nonFinite _ | conditionReplaced _ | updatingEveryRow _ | deletingEveryRow _ => .warn
  | validationFailed _ | statement _ _ => .debug
  | driverError _ | callbackPanicked | undecodableColumn _ _ => .error

def quotedMessages (messages : List String) : List Char :=
  '[' :: Text.listed Text.comma (messages.map fun message => Text.quoted message.toList) ++ [']']

def quotedViolations (violations : Violations) : List Char :=
  '\x7b' :: Text.listed Text.comma (violations.entries.map fun entry =>
    Text.quoted entry.1.toList ++ ':' :: ' ' :: quotedMessages entry.2) ++ ['\x7d']

def text : Notice → String
  | nonFinite x =>
      "Non finite float " ++ String.ofList (x.text FloatStyle.plain) ++ " is written as NULL"
  | conditionReplaced condition =>
      "Condition " ++ String.ofList condition.describe ++ " is replaced by a clause list"
  | validationFailed violations =>
      "Validation failed: " ++ String.ofList (quotedViolations violations)
  | statement driver sql => "[" ++ driver ++ "] " ++ Text.shorten sql
  | updatingEveryRow table => "Updating every row of `" ++ table ++ "`"
  | deletingEveryRow table => "Deleting every row of `" ++ table ++ "`"
  | driverError message => message
  | callbackPanicked => "The completion callback panicked, the result is still delivered"
  | undecodableColumn column cell => "Cannot decode column `" ++ column ++ "`: " ++ cell

end Notice

namespace Condition

def andNotices (condition : Condition) : List Notice :=
  if condition.isReplaced then [.conditionReplaced condition] else []

/-- Adds clauses one after the other, with the notices on the way. -/
def chain (condition : Condition) : List Clause → Condition × List Notice
  | [] => (condition, [])
  | (field, predicate) :: rest =>
      let (result, notices) := chain (condition.and field predicate) rest
      (result, condition.andNotices ++ notices)

end Condition

end TableGateway
