import TopDown.Grammar.Builder

namespace TopDown

structure GrammarTable where
  start : String
  endMarker : String := defaultEndMarker
  policy : TerminalPolicy := .literal
  patterns : List String := []
  literals : List String := []
  allowLeftRecursion : Bool := false
  rules : List RuleDraft
  deriving DecidableEq, Repr

namespace GrammarTable

/-- Rules of one name become one rule with the alternatives of all of them. -/
def toBuilder (t : GrammarTable) : GrammarBuilder :=
  t.rules.foldl (fun b rule ↦ b.withRule rule.name rule.alternatives) {
    entryPoint := some t.start
    endMarker := t.endMarker
    policy := t.policy
    allowLeftRecursion := t.allowLeftRecursion
    patterns := t.patterns
    literals := t.literals }

def build (t : GrammarTable) : Except GrammarError Grammar :=
  t.toBuilder.build

end GrammarTable

def Grammar.toTable (g : Grammar) : GrammarTable where
  start := g.ruleName g.entryPoint
  endMarker := g.endMarker
  patterns := (g.terminals.toList.filter (·.isPattern)).map (·.text)
  allowLeftRecursion := g.allowLeftRecursion
  rules := g.rules.toList.map fun rule ↦ ⟨rule.name, g.namedAlternatives rule⟩

end TopDown
