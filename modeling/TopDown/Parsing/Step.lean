import TopDown.Parsing.Configuration
import TopDown.Parsing.TokenStream

namespace TopDown

inductive StepError where
  | final (mode : Mode)
  | nothingPending
  | nothingMatched
  | retreatBeforeStart
  | endMarkerMatched
  | emptyRule (name : String)
  | noHistory (name : String)
  | noAlternative (name : String) (index : Nat)
  | differentPending (name : String) (index : Nat)
  deriving DecidableEq, Repr

namespace Configuration

variable (g : Grammar) (s : TokenStream) (c : Configuration)

def acceptsToken (terminal : Nat) : Bool :=
  (s.get? c.cursor).any (g.accepts terminal)

def matchingStep : Except StepError Configuration :=
  match c.pending.pop? with
  | none => .error .nothingPending
  | some (.nonTerminal id, rest) =>
    match g.alternativesOf id with
    | [] => .error (.emptyRule (g.ruleName id))
    | first :: _ => .ok {
        mode := .matching
        cursor := c.cursor
        matched := c.matched.push (.nonTerminal id)
        pending := rest.pushAll first
        history := c.history.push 0
        transition := .expansion
        exhausted := false }
  | some (.terminal id, rest) =>
    if c.acceptsToken g s id then .ok {
      mode := .matching
      cursor := c.cursor + 1
      matched := c.matched.push (.terminal id)
      pending := rest
      history := c.history
      transition := .match
      exhausted := false }
    else .ok { c with mode := .backtrack, transition := .mismatch }
  | some (.endMarker, rest) =>
    if rest.isEmpty && c.cursor ≥ s.input.size then
      .ok { c with mode := .success, transition := .acceptance }
    else .ok { c with mode := .backtrack, transition := .mismatch }

/--
Undoes the choice of alternative `index` for the non-terminal on top of `matched`, and makes the
next one if there is one.
-/
def changeChoice (id : Nat) (below : Stack Symbol) (index : Nat) (history : Stack Nat) :
    Except StepError Configuration :=
  let alternatives := g.alternativesOf id
  match alternatives[index]? with
  | none => .error (.noAlternative (g.ruleName id) index)
  | some spliced =>
    match c.pending.dropAll? spliced with
    | none => .error (.differentPending (g.ruleName id) index)
    | some rest =>
      match alternatives[index + 1]? with
      | some next => .ok {
          mode := .matching
          cursor := c.cursor
          matched := c.matched
          pending := rest.pushAll next
          history := history.push (index + 1)
          transition := .nextAlternative
          exhausted := false }
      | none =>
        if below.isEmpty then
          .ok { c with mode := .fail, transition := .reject, exhausted := true }
        else .ok {
          mode := .backtrack
          cursor := c.cursor
          matched := below
          pending := rest.push (.nonTerminal id)
          history
          transition := .escalate
          exhausted := true }

def backtrackStep : Except StepError Configuration :=
  match c.matched.pop? with
  | none => .error .nothingMatched
  | some (.terminal id, below) =>
    match c.cursor with
    | 0 => .error .retreatBeforeStart
    | cursor + 1 => .ok {
        mode := .backtrack
        cursor
        matched := below
        pending := c.pending.push (.terminal id)
        history := c.history
        transition := .retreat
        exhausted := c.exhausted }
  | some (.endMarker, _) => .error .endMarkerMatched
  | some (.nonTerminal id, below) =>
    match c.history.pop? with
    | none => .error (.noHistory (g.ruleName id))
    | some (index, history) => c.changeChoice g id below index history

def step : Except StepError Configuration :=
  match c.mode with
  | .matching => c.matchingStep g s
  | .backtrack => c.backtrackStep g
  | mode => .error (.final mode)

end Configuration

namespace StepError

def detail : StepError → String
  | .final mode => s!"no transition out of final mode {mode.name}"
  | .nothingPending => "pending stack is empty"
  | .nothingMatched => "backtracking with an empty matched stack"
  | .retreatBeforeStart => "retreat before the first token"
  | .endMarkerMatched => "end sentinel on the matched stack"
  | .emptyRule name => (GrammarError.emptyRule name).message
  | .noHistory name => s!"open non-terminal '{name}' has no alternative history"
  | .noAlternative name index => s!"'{name}' has no alternative {index}"
  | .differentPending name index =>
    s!"pending stack does not start with alternative {index} of '{name}'"

end StepError

end TopDown
