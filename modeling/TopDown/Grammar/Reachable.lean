import TopDown.Grammar.Nullable

namespace TopDown.Grammar

variable (g : Grammar)

def mentions (id : Nat) : List Nat :=
  (g.alternativesOf id).flatMap fun alternative ↦ alternative.filterMap Symbol.nonTerminal?

def reachableRound (known : Array Bool) : Array Bool :=
  (g.nonTerminals.filter (isKnown known)).foldl
    (fun reached id ↦ (g.mentions id).foldl (·.setIfInBounds · true) reached) known

def reachableAfter : Nat → Array Bool
  | 0 => (Array.replicate g.rules.size false).setIfInBounds g.entryPoint true
  | n + 1 => g.reachableRound (reachableAfter n)

/-- Each round before the last one reaches a further rule. -/
def reachable : Array Bool :=
  g.reachableAfter g.rules.size

def unreachableRules : List Nat :=
  let reached := g.reachable
  g.nonTerminals.filter fun id ↦ !isKnown reached id

end TopDown.Grammar
