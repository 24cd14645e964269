import TopDown.Grammar.LeftRecursion
import TopDown.Grammar.Reachable

namespace TopDown.Grammar

variable (g : Grammar)

/-- Left recursion is an error unless it is allowed; rules out of reach are worth a warning. -/
def validate (allowLeftRecursion : Bool) : Except GrammarError (List GrammarWarning) :=
  let cycles := g.leftRecursiveCycles.map fun cycle ↦ cycle.map g.ruleName
  if !cycles.isEmpty && !allowLeftRecursion then .error (.leftRecursion cycles)
  else .ok (cycles.map .leftRecursion ++
    g.unreachableRules.map fun id ↦ .unreachableRule (g.ruleName id))

end TopDown.Grammar
