import TopDown.Parsing.Step
import TopDown.Parsing.Trace
import TopDown.Text.Duration

namespace TopDown

structure Limits where
  maxSteps : Option Nat := some 1000000
  time : Option Nat := none
  deriving DecidableEq, Repr

namespace Limits

def none : Limits :=
  ⟨.none, .none⟩

end Limits

inductive ParseError where
  | unknownSymbol (name : String)
  | step (error : StepError)
  | stepLimitExceeded (limit : Nat) (trace : Trace)
  | timeLimitExceeded (limit : Nat) (trace : Trace)
  deriving DecidableEq, Repr

namespace ParseError

def message : ParseError → String
  | .unknownSymbol name => (GrammarError.unknownSymbol name).message
  | .step (.emptyRule name) => (GrammarError.emptyRule name).message
  | .step error => "Corrupt configuration: " ++ error.detail
  | .stepLimitExceeded limit _ => s!"Step limit of {limit} exceeded"
  | .timeLimitExceeded limit trace =>
    s!"Time limit of {Text.duration limit} exceeded after {trace.steps} steps"

def code : ParseError → String
  | .unknownSymbol _ => "parser::unknown_symbol"
  | .step (.emptyRule name) => (GrammarError.emptyRule name).code
  | .step _ => "parser::corrupt_configuration"
  | .stepLimitExceeded _ _ => "parser::step_limit"
  | .timeLimitExceeded _ _ => "parser::time_limit"

def help? : ParseError → Option String
  | .stepLimitExceeded _ _ =>
    some "the grammar may be left recursive, or the input needs a larger budget"
  | _ => none

def partialTrace? : ParseError → Option Trace
  | .stepLimitExceeded _ trace | .timeLimitExceeded _ trace => some trace
  | _ => none

end ParseError

namespace Trace

/-- `clock n` tells the time that has gone by, in nanoseconds, when `n` steps are done. -/
def limitError? (limits : Limits) (clock : Nat → Nat) (t : Trace) : Option ParseError :=
  let overSteps := limits.maxSteps.bind fun limit ↦
    if limit ≤ t.steps then some (ParseError.stepLimitExceeded limit t) else none
  let overTime := limits.time.bind fun limit ↦
    if limit < clock t.steps then some (ParseError.timeLimitExceeded limit t) else none
  overSteps.or overTime

/-- Goes on from a trace for at most `fuel` steps; the result is `none` if these do not do. -/
def extend? (g : Grammar) (s : TokenStream) (limits : Limits) (clock : Nat → Nat) :
    Nat → Trace → Option (Except ParseError Trace)
  | fuel, t =>
    if t.last.isFinal then some (.ok t)
    else match t.limitError? limits clock with
      | some error => some (.error error)
      | none =>
        match fuel with
        | 0 => none
        | fuel + 1 =>
          match t.last.step g s with
          | .error error => some (.error (.step error))
          | .ok c => extend? g s limits clock fuel (t.push c)

end Trace

/--
Parses `s` from the rule `start`. A limit on the steps bounds the run; without one, `patience` does,
and the result is `none` if the run takes more steps.
-/
def Grammar.parseStream? (g : Grammar) (s : TokenStream) (start : Nat) (limits : Limits)
    (clock : Nat → Nat) (patience : Nat) : Option (Except ParseError Trace) :=
  Trace.extend? g s limits clock (limits.maxSteps.getD patience) ⟨.initial start, #[]⟩

/-- Parses `tokens` from the rule named `start`, or from the entry point if none is named. -/
def Grammar.parse? (g : Grammar) (tokens : List String) (start : Option String) (limits : Limits)
    (clock : Nat → Nat) (patience : Nat) : Option (Except ParseError Trace) :=
  let s := TokenStream.ofTokens tokens g.endMarker
  match start with
  | none => g.parseStream? s g.entryPoint limits clock patience
  | some name =>
    match g.nonTerminal? name with
    | some id => g.parseStream? s id limits clock patience
    | none => some (.error (.unknownSymbol name))

end TopDown
