import TopDown.Json.Reader
import TopDown.Table.Basic

namespace TopDown

namespace TerminalPolicy

def name : TerminalPolicy → String
  | .literal => "literal"
  | .inferred => "inferred"

def readName (cs : List Char) : Except Json.Error (TerminalPolicy × List Char) :=
  match Json.readStringAs "variant identifier" cs with
  | .error e => .error e
  | .ok ("literal", rest) => .ok (.literal, rest)
  | .ok ("inferred", rest) => .ok (.inferred, rest)
  | .ok (name, _) => .error (.data (.unknownVariant name ["literal", "inferred"]))

/-- A policy is a string, or the only key of an object whose value is `null`. -/
def read (cs : List Char) : Except Json.Error (TerminalPolicy × List Char) :=
  match Json.skipBlanks cs with
  | [] => .error .unfinished
  | '"' :: rest => readName ('"' :: rest)
  | '\x7b' :: rest => do
    let (policy, rest) ← readName rest
    let rest ← Json.readColon rest
    let (_, rest) ← Json.readNull rest
    return (policy, ← Json.expect ['\x7d'] (Json.skipBlanks rest))
  | _ => .error .malformed

end TerminalPolicy

namespace RuleDraft

structure Partial where
  name : Option String := none
  alternatives : Option (List (List String)) := none
  deriving DecidableEq, Repr

def record : Json.Record Partial where
  name := "RuleDefinition"
  fields := [
    { name := "name"
      isSet := (·.name.isSome)
      read := fun p cs ↦ (Json.readString cs).map fun r ↦ ({ p with name := some r.1 }, r.2) },
    { name := "alternatives"
      isSet := (·.alternatives.isSome)
      read := fun p cs ↦ (Json.readList (Json.readList Json.readString) cs).map fun r ↦
        ({ p with alternatives := some r.1 }, r.2) }]

def read (cs : List Char) : Except Json.Error (RuleDraft × List Char) :=
  (record.read {} cs).map fun r ↦ (⟨r.1.name.getD "", r.1.alternatives.getD []⟩, r.2)

end RuleDraft

namespace GrammarTable

structure Partial where
  start : Option String := none
  endMarker : Option String := none
  policy : Option TerminalPolicy := none
  patterns : Option (List String) := none
  literals : Option (List String) := none
  allowLeftRecursion : Option Bool := none
  rules : Option (List RuleDraft) := none
  deriving DecidableEq, Repr

def record : Json.Record Partial where
  name := "GrammarDefinition"
  fields := [
    { name := "start"
      isSet := (·.start.isSome)
      read := fun p cs ↦ (Json.readString cs).map fun r ↦ ({ p with start := some r.1 }, r.2) },
    { name := "end_marker"
      optional := true
      isSet := (·.endMarker.isSome)
      read := fun p cs ↦ (Json.readString cs).map fun r ↦
        ({ p with endMarker := some r.1 }, r.2) },
    { name := "terminal_policy"
      aliases := ["terminals"]
      optional := true
      isSet := (·.policy.isSome)
      read := fun p cs ↦ (TerminalPolicy.read cs).map fun r ↦
        ({ p with policy := some r.1 }, r.2) },
    { name := "patterns"
      optional := true
      isSet := (·.patterns.isSome)
      read := fun p cs ↦ (Json.readList Json.readString cs).map fun r ↦
        ({ p with patterns := some r.1 }, r.2) },
    { name := "literals"
      optional := true
      isSet := (·.literals.isSome)
      read := fun p cs ↦ (Json.readList Json.readString cs).map fun r ↦
        ({ p with literals := some r.1 }, r.2) },
    { name := "allow_left_recursion"
      optional := true
      isSet := (·.allowLeftRecursion.isSome)
      read := fun p cs ↦ (Json.readBool cs).map fun r ↦
        ({ p with allowLeftRecursion := some r.1 }, r.2) },
    { name := "rules"
      isSet := (·.rules.isSome)
      read := fun p cs ↦ (Json.readList RuleDraft.read cs).map fun r ↦
        ({ p with rules := some r.1 }, r.2) }]

def Partial.complete (p : Partial) : GrammarTable where
  start := p.start.getD ""
  endMarker := p.endMarker.getD defaultEndMarker
  policy := p.policy.getD .literal
  patterns := p.patterns.getD []
  literals := p.literals.getD []
  allowLeftRecursion := p.allowLeftRecursion.getD false
  rules := p.rules.getD []

def read (cs : List Char) : Except Json.Error (GrammarTable × List Char) :=
  (record.read {} cs).map fun r ↦ (r.1.complete, r.2)

def ofJson (text : String) : Except Json.Error GrammarTable :=
  Json.readAll read text

end GrammarTable

end TopDown
