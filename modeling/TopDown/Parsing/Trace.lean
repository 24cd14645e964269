import TopDown.Parsing.Configuration
import TopDown.Text.Lines
import TopDown.Text.Padding

namespace TopDown

structure Trace where
  first : Configuration
  later : Array Configuration := #[]
  deriving DecidableEq, Repr

structure TraceRow where
  mode : Char
  cursor : Nat
  rule : String
  matched : String
  pending : String
  alternatives : String
  deriving DecidableEq, Repr

def Configuration.row (g : Grammar) (c : Configuration) : TraceRow where
  mode := c.mode.code
  cursor := c.cursor
  rule := c.transition.tag
  matched := " ".intercalate (c.matched.bottomUp.map g.name)
  pending := " ".intercalate (c.pending.values.map g.name)
  alternatives := " ".intercalate (c.history.bottomUp.map toString)

namespace Trace

variable (t : Trace)

def push (c : Configuration) : Trace :=
  { t with later := t.later.push c }

def steps : Nat :=
  t.later.size

def size : Nat :=
  t.later.size + 1

def last : Configuration :=
  t.later.back?.getD t.first

def get? : Nat → Option Configuration
  | 0 => some t.first
  | i + 1 => t.later[i]?

def toList : List Configuration :=
  t.first :: t.later.toList

theorem getElem?_toList (t : Trace) (i : Nat) : t.toList[i]? = t.get? i := by
  cases i with
  | zero => rfl
  | succ i =>
    change t.later.toList[i]? = t.later[i]?
    exact Array.getElem?_toList

def accepted : Bool :=
  t.last.mode == .success

def rows (g : Grammar) : List TraceRow :=
  t.toList.map (·.row g)

theorem length_rows (g : Grammar) : (t.rows g).length = t.size := by
  rw [rows, List.length_map, toList, List.length_cons, Array.length_toList, size]

structure Widths where
  matched : Nat
  pending : Nat
  deriving DecidableEq, Repr

def widths (rows : List TraceRow) : Widths where
  matched := rows.foldl (fun w row ↦ max w row.matched.length) "matched".length
  pending := rows.foldl (fun w row ↦ max w row.pending.length) "pending".length

def tableLine (w : Widths) (step mode cursor rule matched pending alternatives : String) :
    String :=
  "  ".intercalate [Text.padLeft 5 step, mode, Text.padLeft 6 cursor, Text.padRight 4 rule,
    Text.padRight w.matched matched, Text.padRight w.pending pending, alternatives]

def rowLine (w : Widths) (step : Nat) (row : TraceRow) : String :=
  tableLine w (toString step) (String.singleton row.mode) (toString row.cursor) row.rule
    row.matched row.pending row.alternatives

def render (g : Grammar) : String :=
  let rows := t.rows g
  let w := widths rows
  Text.unlines (tableLine w "step" "s" "cursor" "rule" "matched" "pending" "alternatives" ::
    rows.mapIdx (rowLine w))

/--
The non-terminals of an accepted trace in the order of a leftmost derivation, each with the
alternative that it was replaced by.
-/
def derivation? (g : Grammar) : Option (List (String × Nat)) :=
  if t.accepted then
    let nonTerminals := t.last.matched.bottomUp.filterMap Symbol.nonTerminal?
    some ((nonTerminals.map g.ruleName).zip t.last.history.bottomUp)
  else none

end Trace

end TopDown
