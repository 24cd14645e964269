import TopDown.Grammar.Symbol
import TopDown.Grammar.Terminal
import TopDown.Grammar.Error

namespace TopDown

structure Rule where
  name : String
  alternatives : List (List Symbol)
  deriving DecidableEq, Repr

structure Grammar where
  rules : Array Rule
  terminals : Array Terminal
  entryPoint : Nat
  endMarker : String
  allowLeftRecursion : Bool
  warnings : List GrammarWarning
  deriving DecidableEq, Repr

namespace Grammar

variable (g : Grammar)

def alternativesOf (id : Nat) : List (List Symbol) :=
  match g.rules[id]? with
  | some rule => rule.alternatives
  | none => []

def ruleName (id : Nat) : String :=
  match g.rules[id]? with
  | some rule => rule.name
  | none => ""

def name : Symbol → String
  | .nonTerminal id => g.ruleName id
  | .terminal id =>
    match g.terminals[id]? with
    | some terminal => terminal.text
    | none => ""
  | .endMarker => g.endMarker

def accepts (id : Nat) (token : String) : Bool :=
  g.terminals[id]?.any (·.accepts token)

def nonTerminal? (name : String) : Option Nat :=
  g.rules.findIdx? (·.name == name)

def symbol? (name : String) : Option Symbol :=
  match g.nonTerminal? name with
  | some id => some (.nonTerminal id)
  | none => (g.terminals.findIdx? (·.text == name)).map .terminal

def isNonTerminal (name : String) : Bool :=
  (g.nonTerminal? name).isSome

/-- Every name that is not the name of a rule. -/
def isTerminal (name : String) : Bool :=
  !g.isNonTerminal name

/-- Whether the symbol named `name` accepts `token`; a name of no symbol stands for itself. -/
def symbolAccepts (name token : String) : Bool :=
  match g.symbol? name with
  | some (.terminal id) => g.accepts id token
  | some (.nonTerminal _) => false
  | some .endMarker | none => name == token

def alternatives (name : String) : Except GrammarError (List (List Symbol)) :=
  match g.nonTerminal? name with
  | some id => .ok (g.alternativesOf id)
  | none => .error (.unknownSymbol name)

def nonTerminals : List Nat :=
  List.range g.rules.size

def namedAlternatives (rule : Rule) : List (List String) :=
  rule.alternatives.map fun alternative ↦ alternative.map g.name

end Grammar

end TopDown
