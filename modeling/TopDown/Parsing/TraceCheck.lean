import TopDown.Parsing.Step
import TopDown.Parsing.Trace

namespace TopDown

inductive TraceDefect where
  | notInitial
  | finalInside
  | wrongMode (transition : Transition) (mode : Mode)
  | wrongToken (terminal : String) (token : Nat)
  | endMarkerMatched
  | wrongHistory (entries nonTerminals : Nat)
  | wrongCursor (cursor terminals : Nat)
  | wronglyExhausted (transition : Transition)
  | notSuccessor
  | acceptedEarly
  deriving DecidableEq, Repr

def TraceDefect.message : TraceDefect → String
  | .notInitial => "trace does not start from an initial configuration"
  | .finalInside => "final configuration is not the last one"
  | .wrongMode transition mode => s!"transition {transition.tag} cannot produce mode {mode.name}"
  | .wrongToken terminal token => s!"matched terminal '{terminal}' does not match token {token}"
  | .endMarkerMatched => "end sentinel on the matched stack"
  | .wrongHistory entries nonTerminals =>
    s!"{entries} history entries for {nonTerminals} open non-terminals"
  | .wrongCursor cursor terminals => s!"cursor {cursor} after {terminals} matched terminals"
  | .wronglyExhausted transition => s!"exhausted after transition {transition.tag}"
  | .notSuccessor => "configuration is not the successor of its predecessor"
  | .acceptedEarly => "accepted before consuming the input"

structure TraceViolation where
  index : Nat
  defect : TraceDefect
  deriving DecidableEq, Repr

def TraceViolation.message (v : TraceViolation) : String :=
  s!"configuration {v.index}: {v.defect.message}"

namespace Configuration

variable (g : Grammar) (s : TokenStream)

/-- The defect of the first terminal of `matched` that differs from its token. -/
def matchedDefect? : Nat → List Symbol → Option TraceDefect
  | _, [] => none
  | i, .nonTerminal _ :: symbols => matchedDefect? i symbols
  | i, .terminal id :: symbols =>
    if (s.get? i).any (g.accepts id) then matchedDefect? (i + 1) symbols
    else some (.wrongToken (g.name (.terminal id)) i)
  | _, .endMarker :: _ => some .endMarkerMatched

def mayBeExhausted : Transition → Bool
  | .escalate | .retreat | .reject => true
  | _ => false

def defect? (c : Configuration) : Option TraceDefect :=
  let matched := c.matched.bottomUp
  let nonTerminals := matched.countP (·.isNonTerminal)
  let terminals := matched.length - nonTerminals
  match matchedDefect? g s 0 matched with
  | some defect => some defect
  | none =>
    if c.history.size ≠ nonTerminals then some (.wrongHistory c.history.size nonTerminals)
    else if c.cursor ≠ terminals then some (.wrongCursor c.cursor terminals)
    else if c.exhausted && !mayBeExhausted c.transition then
      some (.wronglyExhausted c.transition)
    else none

end Configuration

namespace Trace

variable (g : Grammar) (s : TokenStream)

/-- What is wrong with `c` after `previous`, where `isLast` says that nothing follows. -/
def stepDefect? (previous : Option Configuration) (c : Configuration) (isLast : Bool) :
    Option TraceDefect :=
  if c.isFinal && !isLast then some .finalInside
  else if previous.isSome && c.transition.mode? ≠ some c.mode then
    some (.wrongMode c.transition c.mode)
  else match c.defect? g s, previous with
    | some defect, _ => some defect
    | none, none => none
    | none, some previous =>
      match previous.step g s with
      | .ok next => if next = c then none else some .notSuccessor
      | .error _ => some .notSuccessor

def firstViolation? : Nat → Option Configuration → List Configuration → Option TraceViolation
  | _, _, [] => none
  | i, previous, c :: later =>
    match stepDefect? g s previous c later.isEmpty with
    | some defect => some ⟨i, defect⟩
    | none => firstViolation? (i + 1) (some c) later

/-- Finds the first defect of a trace that should be a run from an initial configuration. -/
def check (t : Trace) : Except TraceViolation Unit :=
  let first := t.first
  if first.transition ≠ .initial || first.mode ≠ .matching || first.cursor ≠ 0 ||
      !first.matched.isEmpty then
    .error ⟨0, .notInitial⟩
  else match firstViolation? g s 0 none t.toList with
    | some violation => .error violation
    | none =>
      if t.accepted && t.last.cursor < s.input.size then .error ⟨t.steps, .acceptedEarly⟩
      else .ok ()

end Trace

end TopDown
