import TopDown.Grammar.Validation

namespace TopDown

inductive TerminalPolicy where
  | literal
  | inferred
  deriving DecidableEq, Repr

structure RuleDraft where
  name : String
  alternatives : List (List String)
  deriving DecidableEq, Repr

def defaultEndMarker : String := "#"

structure GrammarBuilder where
  rules : List RuleDraft := []
  entryPoint : Option String := none
  patterns : List String := []
  literals : List String := []
  policy : TerminalPolicy := .literal
  endMarker : String := defaultEndMarker
  allowLeftRecursion : Bool := false
  deriving DecidableEq, Repr

namespace GrammarBuilder

variable (b : GrammarBuilder)

def withEntryPoint (name : String) : GrammarBuilder :=
  { b with entryPoint := some name }

def hasRule (name : String) : Bool :=
  b.rules.any (·.name == name)

def updateRule (name : String) (f : List (List String) → List (List String)) : GrammarBuilder :=
  { b with rules := b.rules.map fun rule ↦
      if rule.name = name then { rule with alternatives := f rule.alternatives } else rule }

def pushRule (name : String) (alternatives : List (List String)) : GrammarBuilder :=
  { b with rules := b.rules ++ [⟨name, alternatives⟩] }

/-- Adds a rule, or further alternatives to the rule of that name. -/
def withRule (name : String) (alternatives : List (List String)) : GrammarBuilder :=
  if b.hasRule name then b.updateRule name (· ++ alternatives)
  else b.pushRule name alternatives

def withAlternative (name : String) (symbols : List String) : GrammarBuilder :=
  b.withRule name [symbols]

def withPattern (text : String) : GrammarBuilder :=
  { b with patterns := b.patterns ++ [text] }

def withLiteral (text : String) : GrammarBuilder :=
  { b with literals := b.literals ++ [text] }

def withPolicy (policy : TerminalPolicy) : GrammarBuilder :=
  { b with policy }

def withEndMarker (text : String) : GrammarBuilder :=
  { b with endMarker := text }

def allowingLeftRecursion : GrammarBuilder :=
  { b with allowLeftRecursion := true }

def addRule (name : String) (alternatives : List (List String)) :
    Except GrammarError GrammarBuilder :=
  if b.hasRule name then .error (.duplicateRule name) else .ok (b.pushRule name alternatives)

def replaceRule (name : String) (alternatives : List (List String)) :
    Except GrammarError GrammarBuilder :=
  if b.hasRule name then .ok (b.updateRule name fun _ ↦ alternatives)
  else .error (.unknownSymbol name)

def removeRule (name : String) : Except GrammarError GrammarBuilder :=
  if b.hasRule name then .ok { b with rules := b.rules.filter (·.name != name) }
  else .error (.unknownSymbol name)

def compilePattern (source : String) : Except GrammarError Pattern :=
  match Pattern.ofSource source with
  | .ok p => .ok p
  | .error reason => .error (.invalidPattern source reason)

def infersPattern (text : String) : Bool :=
  b.policy == .inferred && !b.literals.contains text && !b.patterns.contains text &&
    looksLikePattern text

def classify (text : String) : Except GrammarError Terminal :=
  if b.patterns.contains text || b.infersPattern text then (compilePattern text).map .pattern
  else .ok (.literal text)

/-- The texts in alternatives that name no rule, each once and in the order of occurrence. -/
def terminalTexts : List String :=
  (b.rules.flatMap fun rule ↦ rule.alternatives.flatten.filter (!b.hasRule ·)).eraseDups

/-- The symbol named `name`, where `terminals` holds the texts of the terminals in order. -/
def resolve (terminals : List String) (name : String) : Symbol :=
  match b.rules.findIdx? (·.name == name) with
  | some id => .nonTerminal id
  | none => .terminal (terminals.idxOf name)

def resolveRule (terminals : List String) (rule : RuleDraft) : Rule where
  name := rule.name
  alternatives := rule.alternatives.map fun alternative ↦ alternative.map (b.resolve terminals)

def entryPoint? : Except GrammarError Nat := do
  let some entryPoint := b.entryPoint | throw .missingEntryPoint
  if let some rule := b.rules.find? (·.alternatives.isEmpty) then throw (.emptyRule rule.name)
  let some id := b.rules.findIdx? (·.name == entryPoint) | throw (.unknownSymbol entryPoint)
  if let some pattern := b.patterns.find? b.hasRule then throw (.patternShadowsRule pattern)
  if let some pattern := b.patterns.find? b.literals.contains then
    throw (.conflictingTerminalTag pattern)
  return id

def build : Except GrammarError Grammar := do
  let entryPoint ← b.entryPoint?
  b.patterns.forM fun pattern ↦ (compilePattern pattern).map fun _ ↦ ()
  let texts := b.terminalTexts
  let terminals ← texts.mapM b.classify
  let g : Grammar := {
    rules := (b.rules.map (b.resolveRule texts)).toArray
    terminals := terminals.toArray
    entryPoint
    endMarker := b.endMarker
    allowLeftRecursion := b.allowLeftRecursion
    warnings := (texts.filter b.infersPattern).map .ambiguousTerminal }
  let warnings ← g.validate b.allowLeftRecursion
  return { g with warnings := g.warnings ++ warnings }

end GrammarBuilder

/-- A builder of the same grammar, with a tag on every terminal. -/
def Grammar.toBuilder (g : Grammar) : GrammarBuilder where
  rules := g.rules.toList.map fun rule ↦ ⟨rule.name, g.namedAlternatives rule⟩
  entryPoint := some (g.ruleName g.entryPoint)
  patterns := (g.terminals.toList.filter (·.isPattern)).map (·.text)
  literals := (g.terminals.toList.filter (!·.isPattern)).map (·.text)
  endMarker := g.endMarker
  allowLeftRecursion := g.allowLeftRecursion

end TopDown
