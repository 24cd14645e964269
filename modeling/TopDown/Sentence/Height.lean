import TopDown.Grammar.Basic
import TopDown.Improvement

namespace TopDown.Grammar

variable (g : Grammar)

def greatestHeight? (heights : Array (Option Nat)) : List Symbol → Option Nat
  | [] => some 0
  | .nonTerminal id :: rest =>
    match heights.getD id none, greatestHeight? heights rest with
    | some height, some greatest => some (max height greatest)
    | _, _ => none
  | .terminal _ :: rest | .endMarker :: rest => greatestHeight? heights rest

def alternativeHeight? (heights : Array (Option Nat)) (alternative : List Symbol) : Option Nat :=
  (greatestHeight? heights alternative).map (· + 1)

def ruleHeight? (heights : Array (Option Nat)) (rule : Rule) : Option Nat :=
  (rule.alternatives.filterMap (alternativeHeight? heights)).min?

/-- The heights of the rules with a derivation tree of height at most `n`. -/
def heightsUpTo : Nat → Array (Option Nat)
  | 0 => Array.replicate g.rules.size none
  | n + 1 => g.rules.map (ruleHeight? (heightsUpTo n))

/-- On a path down a lowest tree no rule occurs twice, so the number of rules bounds its height. -/
def heights : Array (Option Nat) :=
  g.heightsUpTo g.rules.size

def lower : Option Nat → Option Nat → Bool
  | some height, some other => height < other
  | some _, none => true
  | none, _ => false

def heightImprovement : Improvement (Option Nat) where
  value heights id := ((g.alternativesOf id).filterMap (alternativeHeight? heights)).min?
  better := lower
  worst := none

end TopDown.Grammar
