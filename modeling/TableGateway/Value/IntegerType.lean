import TableGateway.Text.Blank
import TableGateway.Value.Basic

/-!
# Integer types of fixed width

The eight integer types, the integers each of them holds, and the integer that a value gives: an
integer value its content, a truth value zero or one, and a text the number written in it. A decimal
without a fraction is written without places and read.
-/

namespace TableGateway

attribute [local instance (high)] instPowNat

open Numeric (readInteger? readNatural?)

inductive Width where
  | w8
  | w16
  | w32
  | w64
  deriving DecidableEq, Inhabited

def Width.bits : Width → Nat
  | w8 => 8
  | w16 => 16
  | w32 => 32
  | w64 => 64

structure IntegerType where
  signed : Bool
  width : Width
  deriving DecidableEq, Inhabited

namespace IntegerType

def least (t : IntegerType) : Int :=
  if t.signed then -(2 ^ (t.width.bits - 1)) else 0

def greatest (t : IntegerType) : Int :=
  if t.signed then 2 ^ (t.width.bits - 1) - 1 else 2 ^ t.width.bits - 1

def name (t : IntegerType) : String :=
  (if t.signed then "i" else "u") ++ toString t.width.bits

structure Member (t : IntegerType) where
  val : Int
  least_le : t.least ≤ val
  le_greatest : val ≤ t.greatest
  deriving DecidableEq

def member? (t : IntegerType) (n : Int) : Option t.Member :=
  if h : t.least ≤ n ∧ n ≤ t.greatest then some ⟨n, h.1, h.2⟩ else none

/-- The integer value of a member: all signed types share one variant, all unsigned ones another. -/
def toValue (t : IntegerType) (n : t.Member) : Value :=
  if t.signed then .int64 (Int64.ofInt n.val) else .uint64 (UInt64.ofNat n.val.toNat)

end IntegerType

/-- The integer that a text writes. Only for a signed type may it have a minus. -/
def writtenInteger? (signed : Bool) (text : List Char) : Option Int :=
  if signed then readInteger? text else (readNatural? text).map Int.ofNat

/-- The integer that a value gives for a signed or an unsigned type. Blanks around a text do not
count. -/
def Value.integer? (signed : Bool) : Value → Option Int
  | int64 n => some n.toInt
  | uint64 n => some n.toNat
  | boolean b => some (if b then 1 else 0)
  | decimal d => if d.fract.isZero then writtenInteger? signed d.normalize.text else none
  | varchar text => writtenInteger? signed (Text.trim text.toList)
  | _ => none

def IntegerType.ofValue? (t : IntegerType) (value : Value) : Option t.Member :=
  (value.integer? t.signed).bind t.member?

end TableGateway
