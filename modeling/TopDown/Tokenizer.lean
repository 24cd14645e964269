import TopDown.Regex.Parser
import TopDown.Regex.Search
import TopDown.Text.Lines

namespace TopDown

inductive TokenizerError where
  /-- The pattern is one of those given, or their alternation if each of them is sound alone. -/
  | invalidPattern (pattern : String) (reason : Regex.SyntaxError)
  | noPatterns
  deriving DecidableEq, Repr

namespace TokenizerError

def message : TokenizerError → String
  | .invalidPattern pattern _ => s!"Invalid token pattern '{pattern}'"
  | .noPatterns => "Tokenizer needs at least one pattern"

def code : TokenizerError → String
  | .invalidPattern _ _ => "lexer::invalid_pattern"
  | .noPatterns => "lexer::no_patterns"

end TokenizerError

structure UnexpectedChar where
  char : Char
  line : Nat
  column : Nat
  deriving DecidableEq, Repr

def UnexpectedChar.message (e : UnexpectedChar) : String :=
  s!"Unexpected character '{e.char}' at line {e.line}, column {e.column}"

structure Tokenizer where
  patterns : List String
  regex : Regex
  deriving DecidableEq, Repr

namespace Tokenizer

def alternation (patterns : List String) : String :=
  "|".intercalate (patterns.map fun pattern ↦ "(?:" ++ pattern ++ ")")

def compile (pattern : String) : Except TokenizerError Regex :=
  match Regex.parse pattern with
  | .ok regex => .ok regex
  | .error reason => .error (.invalidPattern pattern reason)

def ofPatterns (patterns : List String) : Except TokenizerError Tokenizer :=
  if patterns.isEmpty then .error .noPatterns
  else do
    patterns.forM fun pattern ↦ (compile pattern).map fun _ ↦ ()
    return ⟨patterns, ← compile (alternation patterns)⟩

def standardPatterns : List String :=
  ["\\d+\\.[a-zA-Z_][a-zA-Z0-9_]*",
    "\\d+[a-zA-Z_][a-zA-Z0-9_]*",
    "\\d+(\\.\\d+)\x7b2,\x7d",
    "\\d+\\.\\d+",
    "\\d+\\.",
    "[a-zA-Z_][a-zA-Z0-9_]*",
    "\\d+",
    "([\"])",
    "([,.;:()\x7b\x7d\\[\\]\\+\\-\\*/=<>!?#%&|@^~])",
    "(\\s)"]

def standard : Except TokenizerError Tokenizer :=
  ofPatterns standardPatterns

variable (t : Tokenizer)

def tokenizeLine (line : List Char) : List String :=
  let s := line.toArray
  ((t.regex.findAll s).map (·.text s)).filter (·.toList.any (!Unicode.isBlank ·))

def tokenize (source : String) : List (List String) :=
  (Text.splitLines source.toList).map t.tokenizeLine

def tokenizeFlat (source : String) : List String :=
  (t.tokenize source).flatten

def gaps (size : Nat) : Nat → List Regex.Span → List Regex.Span
  | covered, [] => [⟨covered, size⟩]
  | covered, span :: spans => ⟨covered, span.start⟩ :: gaps size (max covered span.stop) spans

def unmatchedInLine (number : Nat) (line : List Char) : List UnexpectedChar :=
  let s := line.toArray
  (gaps s.size 0 (t.regex.findAll s)).flatMap fun gap ↦
    (List.range' gap.start (gap.stop - gap.start)).filterMap fun i ↦
      match s[i]? with
      | some c => if Unicode.isBlank c then none else some ⟨c, number, i + 1⟩
      | none => none

def unmatched (source : String) : List UnexpectedChar :=
  ((Text.splitLines source.toList).mapIdx fun i line ↦ t.unmatchedInLine (i + 1) line).flatten

end Tokenizer

def renderTokenLines (lines : List (List String)) : String :=
  Text.unlines (lines.map (" ".intercalate ·))

end TopDown
