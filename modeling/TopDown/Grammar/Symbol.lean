namespace TopDown

/-- A symbol of a grammar, which knows the symbol by its place in the list of rules or terminals. -/
inductive Symbol where
  | nonTerminal (id : Nat)
  | terminal (id : Nat)
  | endMarker
  deriving DecidableEq, Repr

namespace Symbol

def isNonTerminal : Symbol → Bool
  | .nonTerminal _ => true
  | _ => false

def nonTerminal? : Symbol → Option Nat
  | .nonTerminal id => some id
  | _ => none

end Symbol

end TopDown
