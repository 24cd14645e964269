import TopDown.Grammar.Basic
import TopDown.Parsing.Stack

namespace TopDown

inductive Mode where
  | matching | backtrack | success | fail
  deriving DecidableEq, Repr

namespace Mode

def code : Mode → Char
  | .matching => 'n'
  | .backtrack => 'r'
  | .success => 't'
  | .fail => 'e'

def name : Mode → String
  | .matching => "Matching"
  | .backtrack => "Backtrack"
  | .success => "Success"
  | .fail => "Fail"

def isFinal : Mode → Bool
  | .success | .fail => true
  | .matching | .backtrack => false

end Mode

inductive Transition where
  | initial
  | expansion
  | «match»
  | acceptance
  | mismatch
  | retreat
  | nextAlternative
  | reject
  | escalate
  deriving DecidableEq, Repr

namespace Transition

def tag : Transition → String
  | .initial => "null"
  | .expansion => "1"
  | .match => "2"
  | .acceptance => "3"
  | .mismatch => "4"
  | .retreat => "5"
  | .nextAlternative => "6a"
  | .reject => "6b"
  | .escalate => "6c"

def name : Transition → String
  | .initial => "Initial"
  | .expansion => "Expansion"
  | .match => "Match"
  | .acceptance => "Acceptance"
  | .mismatch => "Mismatch"
  | .retreat => "Retreat"
  | .nextAlternative => "NextAlternative"
  | .reject => "Reject"
  | .escalate => "Escalate"

def mode? : Transition → Option Mode
  | .initial => none
  | .expansion | .match | .nextAlternative => some .matching
  | .mismatch | .retreat | .escalate => some .backtrack
  | .acceptance => some .success
  | .reject => some .fail

end Transition

structure Configuration where
  mode : Mode
  cursor : Nat
  /-- The symbols dealt with, latest on top. -/
  matched : Stack Symbol
  /-- The symbols to come, next on top. -/
  pending : Stack Symbol
  /-- The alternatives chosen for the non-terminals of `matched`, latest on top. -/
  history : Stack Nat
  transition : Transition
  /-- Whether a non-terminal has run out of alternatives since tokens were last compared. -/
  exhausted : Bool
  deriving DecidableEq, Repr

namespace Configuration

def initial (start : Nat) : Configuration where
  mode := .matching
  cursor := 0
  matched := .empty
  pending := (Stack.empty.push .endMarker).push (.nonTerminal start)
  history := .empty
  transition := .initial
  exhausted := false

def isFinal (c : Configuration) : Bool :=
  c.mode.isFinal

def matchedTerminals (g : Grammar) (c : Configuration) : List String :=
  (c.matched.bottomUp.filter (!·.isNonTerminal)).map g.name

end Configuration

end TopDown
