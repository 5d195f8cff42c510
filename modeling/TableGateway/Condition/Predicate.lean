import TableGateway.Condition.Operator
import TableGateway.Failure

/-!
# Predicates

The right hand side of a clause: plain equality with a value, or an operator, a value and the
conjunction that joins the clause to the ones before it. A predicate may also be given as a list of
two or three values, in which null and blank texts stand for the defaults.
-/

namespace TableGateway

/-- What a field is compared with. -/
inductive Predicate where
  | equals (value : Value)
  | compare (operator : Operator) (value : Value) (conjunction : Conjunction)
  deriving Inhabited

namespace Predicate

def operator : Predicate → Operator
  | equals _ => .equal
  | compare operator _ _ => operator

def value : Predicate → Value
  | equals value => value
  | compare _ value _ => value

def conjunction : Predicate → Conjunction
  | equals _ => .and
  | compare _ _ conjunction => conjunction

def withConjunction (p : Predicate) (conjunction : Conjunction) : Predicate :=
  compare p.operator p.value conjunction

def or (p : Predicate) : Predicate :=
  p.withConjunction .or

def like (value : Value) : Predicate :=
  compare .like value .and

def readOperator (text : String) : Except Failure Operator :=
  match Operator.read? text with
  | some operator => .ok operator
  | none => .error (.invalidParameter (.unsupportedOperator text))

def readConjunction (text : String) : Except Failure Conjunction :=
  match Conjunction.read? text with
  | some conjunction => .ok conjunction
  | none => .error (.invalidParameter (.unsupportedConjunction text))

def ofText (operator : String) (value : Value) : Except Failure Predicate :=
  (readOperator operator).map fun operator => compare operator value .and

def operatorOfPart : Value → Except Failure Operator
  | .null => .ok .equal
  | .varchar text => if Text.isAllBlank text then .ok .equal else readOperator text
  | part => .error (.invalidParameter (.operatorNotText part))

def conjunctionOfPart : Value → Except Failure Conjunction
  | .null => .ok .and
  | .varchar text => if Text.isAllBlank text then .ok .and else readConjunction text
  | part => .error (.invalidParameter (.conjunctionNotText part))

/-- The predicate of an operator, a value and optionally a conjunction. -/
def ofParts : List Value → Except Failure Predicate
  | [] => .error (.invalidParameter .tooFewParts)
  | [_] => .error (.invalidParameter .tooFewParts)
  | [operator, value] => (operatorOfPart operator).map fun o => compare o value .and
  | [operator, value, conjunction] => do
      let o ← operatorOfPart operator
      let c ← conjunctionOfPart conjunction
      return compare o value c
  | _ => .error (.invalidParameter .tooManyParts)

end Predicate

end TableGateway
