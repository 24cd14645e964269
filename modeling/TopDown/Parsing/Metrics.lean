import TopDown.Parsing.Trace

namespace TopDown

structure Metrics where
  steps : Nat := 0
  expansions : Nat := 0
  consumed : Nat := 0
  mismatches : Nat := 0
  retreats : Nat := 0
  alternativesTried : Nat := 0
  escalations : Nat := 0
  maxDepth : Nat := 0
  deriving DecidableEq, Repr

namespace Metrics

def count (m : Metrics) : Transition → Metrics
  | .expansion => { m with expansions := m.expansions + 1 }
  | .match => { m with consumed := m.consumed + 1 }
  | .mismatch => { m with mismatches := m.mismatches + 1 }
  | .retreat => { m with retreats := m.retreats + 1 }
  | .nextAlternative => { m with alternativesTried := m.alternativesTried + 1 }
  | .escalate => { m with escalations := m.escalations + 1 }
  | .initial | .acceptance | .reject => m

def record (m : Metrics) (c : Configuration) : Metrics :=
  { m.count c.transition with
    steps := m.steps + 1
    maxDepth := max m.maxDepth c.matched.size }

def lines (m : Metrics) : List String :=
  let line (label : String) (n : Nat) : String := Text.padRight 20 (label ++ ":") ++ toString n
  [line "steps" m.steps, line "expansions" m.expansions, line "matches" m.consumed,
    line "mismatches" m.mismatches, line "retreats" m.retreats,
    line "alternatives tried" m.alternativesTried, line "escalations" m.escalations,
    line "max depth" m.maxDepth]

end Metrics

def Trace.metrics (t : Trace) : Metrics :=
  t.later.foldl Metrics.record {}

end TopDown
