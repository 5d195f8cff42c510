import TableGateway.Pattern.Reader
import TableGateway.Proofs.Pattern.Brackets

/-!
# Patterns between anchors

A pattern is pasted between anchors in a group of its own. Whenever the whole is read without fault,
the expression is that of the pattern alone between an assertion of the start and one of the end,
unless a parenthesis in the pattern closes the group: then the pattern alone is no pattern. The run
inside the group is followed along the run of the pattern alone, one step of the reader at a time.
-/

namespace TableGateway.Pattern

/-! ## One step -/

section

variable {state next : State} {text rest left : List Char} {c : Char} {regex : Regex}

end

/-! ## A group around a state -/

def State.under (frame : Flags × Level) (state : State) : State :=
  { state with outer := state.outer ++ [frame] }

section

variable {state : State} {frame : Flags × Level}

end

section

variable {frame : Flags × Level} {state : State} {text : List Char} {regex : Regex}

end

/-! ## The anchored pattern -/

def State.start : State := ⟨Flags.standard, ⟨[], []⟩, [], []⟩

end TableGateway.Pattern
