import TopDown.Grammar.Basic
import TopDown.Text.Lines
import TopDown.Text.Quoted

namespace TopDown.Grammar

variable (g : Grammar)

def alternativeText : List String → String
  | [] => " ε"
  | names => String.join (names.map (" " ++ ·))

def ruleText (rule : Rule) : String :=
  rule.name ++ " ->" ++ " |".intercalate ((g.namedAlternatives rule).map alternativeText)

def render : String :=
  Text.unlines (g.rules.toList.map g.ruleText)

def quotedList (quote : α → String) (items : List α) : String :=
  "[" ++ ", ".intercalate (items.map quote) ++ "]"

def renderQuoted : String :=
  let entries := g.rules.toList.map fun rule ↦
    Text.quoted rule.name ++ ": " ++
      quotedList (quotedList Text.quoted) (g.namedAlternatives rule)
  "\x7b" ++ ", ".intercalate entries ++ "\x7d"

end TopDown.Grammar
