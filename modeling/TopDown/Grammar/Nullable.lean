import TopDown.Grammar.Basic
import TopDown.Improvement

namespace TopDown.Grammar

variable (g : Grammar)

def isKnown (known : Array Bool) (id : Nat) : Bool :=
  known.getD id false

def allKnown (known : Array Bool) (alternative : List Symbol) : Bool :=
  alternative.all fun
    | .nonTerminal id => isKnown known id
    | .terminal _ | .endMarker => false

def nullableRound (known : Array Bool) : Array Bool :=
  g.rules.map fun rule ↦ rule.alternatives.any (allKnown known)

def nullableAfter : Nat → Array Bool
  | 0 => Array.replicate g.rules.size false
  | n + 1 => g.nullableRound (nullableAfter n)

/-- Each round before the last one finds a rule, so there are at most as many as rules. -/
def nullable : Array Bool :=
  g.nullableAfter g.rules.size

/-- The search that counts a rule as nullable as soon as it is found to be. -/
def nullableImprovement : Improvement Bool where
  value known id := (g.alternativesOf id).any (allKnown known)
  better new old := new && !old
  worst := false

end TopDown.Grammar
