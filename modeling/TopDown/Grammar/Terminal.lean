import TopDown.Regex.Parser
import TopDown.Regex.Search

namespace TopDown

structure Pattern where
  source : String
  regex : Regex
  deriving DecidableEq, Repr

namespace Pattern

/-- The text of `source` in a group of its own, between the two ends of a token. -/
def anchored (source : String) : String :=
  "^(?:" ++ source ++ ")$"

def ofSource (source : String) : Except Regex.SyntaxError Pattern :=
  (Regex.parse (anchored source)).map fun regex ↦ ⟨source, regex⟩

def accepts (p : Pattern) (token : String) : Bool :=
  p.regex.isMatch token.toList.toArray

end Pattern

inductive Terminal where
  | literal (text : String)
  | pattern (p : Pattern)
  deriving DecidableEq, Repr

namespace Terminal

def text : Terminal → String
  | .literal text => text
  | .pattern p => p.source

def isPattern : Terminal → Bool
  | .literal _ => false
  | .pattern _ => true

def accepts : Terminal → String → Bool
  | .literal text, token => text == token
  | .pattern p, token => p.accepts token

end Terminal

/-- The characters that make a text more than a literal if it is read as an expression. -/
def metacharacters : List Char :=
  ".+*?()|[]\x7b\x7d^$\\".toList

/-- Whether a text is an expression in which some character does not stand for itself. -/
def looksLikePattern (text : String) : Bool :=
  text.toList.any metacharacters.contains && (Regex.parse text).isOk

end TopDown
