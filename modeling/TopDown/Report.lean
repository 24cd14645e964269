import TopDown.Json.Value
import TopDown.Parsing.Metrics

namespace TopDown

inductive ReportFormat where
  | table | json | summary
  deriving DecidableEq, Repr

namespace ReportFormat

def name : ReportFormat → String
  | .table => "Table"
  | .json => "Json"
  | .summary => "Summary"

def ofName? (name : String) : Option ReportFormat :=
  match name.map Char.toLower with
  | "table" | "text" => some .table
  | "json" => some .json
  | "summary" => some .summary
  | _ => none

def unknownMessage (name : String) : String :=
  s!"Unknown format: {name}. Supported: table, json, summary"

end ReportFormat

namespace Trace

variable (t : Trace) (g : Grammar)

def verdict : String :=
  if t.accepted then "accepted" else "rejected"

def summary : String :=
  let choices := (t.derivation? g).getD []
  Text.unlines (s!"{t.verdict} after {t.steps} steps" ::
    choices.map fun choice ↦ s!"  {choice.1} #{choice.2}")

def choiceValue (choice : String × Nat) : Json.Value :=
  .object [("alternative", .number choice.2), ("rule", .string choice.1)]

def rowValue (row : TraceRow) : Json.Value :=
  .object [("alternatives", .string row.alternatives), ("cursor", .number row.cursor),
    ("matched", .string row.matched), ("mode", .string (String.singleton row.mode)),
    ("pending", .string row.pending), ("rule", .string row.rule)]

def toJsonValue : Json.Value :=
  .object [("accepted", .bool t.accepted),
    ("derivation", match t.derivation? g with
      | some choices => .array (choices.map choiceValue)
      | none => .null),
    ("steps", .number t.steps),
    ("trace", .array ((t.rows g).map rowValue))]

def report : ReportFormat → String
  | .table => t.render g ++ t.verdict ++ "\n"
  | .json => (t.toJsonValue g).render ++ "\n"
  | .summary => t.summary g

end Trace

end TopDown
