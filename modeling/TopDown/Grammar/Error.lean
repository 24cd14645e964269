import TopDown.Regex.Flags

namespace TopDown

inductive GrammarError where
  | missingEntryPoint
  | unknownSymbol (name : String)
  | emptyRule (name : String)
  | duplicateRule (name : String)
  | invalidPattern (pattern : String) (reason : Regex.SyntaxError)
  | patternShadowsRule (pattern : String)
  | conflictingTerminalTag (text : String)
  | leftRecursion (cycles : List (List String))
  deriving DecidableEq, Repr

inductive GrammarWarning where
  | leftRecursion (cycle : List String)
  | ambiguousTerminal (text : String)
  | unreachableRule (name : String)
  deriving DecidableEq, Repr

def cycleText (cycle : List String) : String :=
  " -> ".intercalate cycle

namespace GrammarError

def message : GrammarError → String
  | .missingEntryPoint => "Missing entry point"
  | .unknownSymbol name => s!"Unknown symbol: '{name}' is not a rule of this grammar"
  | .emptyRule name => s!"Rule '{name}' has no alternatives"
  | .duplicateRule name => s!"Rule '{name}' is already defined"
  | .invalidPattern pattern _ => s!"Invalid pattern '{pattern}'"
  | .patternShadowsRule pattern => s!"Pattern '{pattern}' is also the name of a rule"
  | .conflictingTerminalTag text =>
    s!"Terminal '{text}' is tagged both as a pattern and as a literal"
  | .leftRecursion cycles =>
    "Left recursion detected: " ++ "; ".intercalate (cycles.map cycleText)

def code : GrammarError → String
  | .missingEntryPoint => "grammar::missing_entry_point"
  | .unknownSymbol _ => "grammar::unknown_symbol"
  | .emptyRule _ => "grammar::empty_rule"
  | .duplicateRule _ => "grammar::duplicate_rule"
  | .invalidPattern _ _ => "grammar::invalid_pattern"
  | .patternShadowsRule _ => "grammar::pattern_shadows_rule"
  | .conflictingTerminalTag _ => "grammar::conflicting_terminal_tag"
  | .leftRecursion _ => "grammar::left_recursion"

def help? : GrammarError → Option String
  | .leftRecursion _ =>
    some "rewrite the rule, or call allow_left_recursion() and rely on the step budget"
  | _ => none

end GrammarError

def GrammarWarning.message : GrammarWarning → String
  | .leftRecursion cycle => "left recursive cycle " ++ cycleText cycle
  | .ambiguousTerminal text => s!"terminal '{text}' was classified as a pattern"
  | .unreachableRule name => s!"rule '{name}' is unreachable from the entry point"

end TopDown
