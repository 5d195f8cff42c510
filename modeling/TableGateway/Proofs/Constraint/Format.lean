import TableGateway.Proofs.Constraint.Rules
import TableGateway.Proofs.Pattern.Anchors
import TableGateway.Proofs.Pattern.Matching

/-!
# The format rule

The format rule of a constraint keeps the expression of its pattern between anchors, which are
pasted around the pattern as text. A pattern that can be read on its own constrains the whole value.
One with a closing parenthesis that opens nowhere cannot, but it may be read between the anchors: it
closes their group, and what stands outside of the group is held by one anchor at most.
-/

namespace TableGateway

namespace Constraint

end Constraint

end TableGateway
