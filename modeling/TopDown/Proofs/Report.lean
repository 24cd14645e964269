import TopDown.Proofs.PrintedJson
import TopDown.Report

namespace TopDown

namespace Text

def Padded (text field : String) : Prop :=
  ∃ m n, field.toList = List.replicate m ' ' ++ text.toList ++ List.replicate n ' '

theorem padded_self (text : String) : Padded text text :=
  ⟨0, 0, by simp⟩

theorem padded_padLeft (width : Nat) (text : String) : Padded text (padLeft width text) :=
  ⟨width - text.length, 0, by simp [padLeft]⟩

theorem padded_padRight (width : Nat) (text : String) : Padded text (padRight width text) :=
  ⟨0, width - text.length, by simp [padRight]⟩

/-- A line that shows the texts in their order, with spaces around and two spaces between them. -/
def Tabulated (texts : List String) (line : String) : Prop :=
  ∃ fields, line = "  ".intercalate fields ∧ List.Forall₂ Padded texts fields

end Text

namespace Json

variable {fields : List (String × (List Char → Prop))}

def CountText (n : Nat) (text : List Char) : Prop :=
  text = (toString n).toList

def FieldsText (fields : List (String × (List Char → Prop))) (text : List Char) : Prop :=
  ∃ members, ObjectText members text ∧
    List.Forall₂ (fun field m ↦ Spells field.1.toList m.1 ∧ field.2 m.2) fields members

theorem countText_renderAt (n level : Nat) :
    CountText n ((Value.number n).renderAt level).toList := by
  rw [Value.renderAt]
  rfl

theorem nullText_renderAt (level : Nat) : (Value.null.renderAt level).toList = "null".toList := by
  rw [Value.renderAt]

theorem fieldsText_renderAt {values : List (String × Value)}
    (h : List.Forall₂ (fun field value ↦ field.1 = value.1 ∧
      ∀ level, field.2 (value.2.renderAt level).toList) fields values) (level : Nat) :
    FieldsText fields ((Value.object values).renderAt level).toList := by
  refine ⟨_, objectText_renderAt values level, ?_⟩
  rw [List.forall₂_map_right_iff]
  refine h.imp fun field value hv ↦ ⟨?_, hv.2 _⟩
  rw [hv.1]
  exact spells_flatMap_escapeChar _

end Json

namespace Trace

open TopDown.Text TopDown.Json

variable {t : Trace} {g : Grammar}

def rowTexts (i : Nat) (row : TraceRow) : List String :=
  [toString i, String.singleton row.mode, toString row.cursor, row.rule, row.matched, row.pending,
    row.alternatives]

def RowText (row : TraceRow) : List Char → Prop :=
  FieldsText [("alternatives", StringText row.alternatives), ("cursor", CountText row.cursor),
    ("matched", StringText row.matched), ("mode", StringText (String.singleton row.mode)),
    ("pending", StringText row.pending), ("rule", StringText row.rule)]

def ChoiceText (choice : String × Nat) : List Char → Prop :=
  FieldsText [("alternative", CountText choice.2), ("rule", StringText choice.1)]

def DerivationText : Option (List (String × Nat)) → List Char → Prop
  | none, text => text = "null".toList
  | some choices, text => ListText ChoiceText choices text

def verdictText (accepted : Bool) : String :=
  if accepted then "accepted" else "rejected"

/--
What a report holds in each format. A table has a line of headings, a line for each configuration
and the verdict, a JSON text has the verdict, the derivation, the number of steps and a record for
each configuration, and a summary has the verdict and the choices of the derivation.
-/
def Reported (t : Trace) (g : Grammar) (accepted : Bool) : ReportFormat → String → Prop
  | .table, text => ∃ header lines,
    text = unlines (header :: lines ++ [verdictText accepted]) ∧
      Tabulated ["step", "s", "cursor", "rule", "matched", "pending", "alternatives"] header ∧
      lines.length = t.size ∧
      ∀ i c, t.get? i = some c → ∃ line, lines[i]? = some line ∧
        Tabulated (rowTexts i (c.row g)) line
  | .json, text => ∃ body, text = body ++ "\n" ∧
    FieldsText [("accepted", BoolText accepted), ("derivation", DerivationText (t.derivation? g)),
      ("steps", CountText t.steps),
      ("trace", ListText (fun c ↦ RowText (c.row g)) t.toList)] body.toList
  | .summary, text =>
    text = unlines (s!"{verdictText accepted} after {t.steps} steps" ::
      ((t.derivation? g).getD []).map fun choice ↦ s!"  {choice.1} #{choice.2}")

theorem unlines_append (lines lines' : List String) :
    unlines (lines ++ lines') = unlines lines ++ unlines lines' := by
  rw [unlines, List.map_append, String.join_append]
  rfl

theorem tabulated_tableLine (w : Widths)
    (step mode cursor rule matched pending alternatives : String) :
    Tabulated [step, mode, cursor, rule, matched, pending, alternatives]
      (tableLine w step mode cursor rule matched pending alternatives) := by
  refine ⟨_, rfl, ?_⟩
  simp only [List.forall₂_cons, List.Forall₂.nil, and_true]
  exact ⟨padded_padLeft 5 step, padded_self mode, padded_padLeft 6 cursor, padded_padRight 4 rule,
    padded_padRight _ matched, padded_padRight _ pending, padded_self alternatives⟩

theorem reported_table (t : Trace) (g : Grammar) :
    t.Reported g t.accepted .table (t.report g .table) := by
  have hreport : t.report g .table =
      unlines (tableLine (widths (t.rows g)) "step" "s" "cursor" "rule" "matched" "pending"
        "alternatives" :: (t.rows g).mapIdx (rowLine (widths (t.rows g))) ++
          [verdictText t.accepted]) := by
    rw [unlines_append, report, render]
    simp [unlines, verdict, verdictText, String.append_assoc]
  refine ⟨_, _, hreport, tabulated_tableLine _ _ _ _ _ _ _ _, ?_, fun i c hc ↦ ?_⟩
  · rw [List.length_mapIdx, length_rows]
  · have hrow : (t.rows g)[i]? = some (c.row g) := by
      rw [rows, List.getElem?_map, getElem?_toList, hc]
      rfl
    exact ⟨_, by rw [List.getElem?_mapIdx, hrow]; rfl, tabulated_tableLine _ _ _ _ _ _ _ _⟩

theorem rowText_renderAt (row : TraceRow) (level : Nat) :
    RowText row ((rowValue row).renderAt level).toList := by
  refine fieldsText_renderAt ?_ level
  simp only [List.forall₂_cons, List.Forall₂.nil, and_true, true_and]
  exact ⟨stringText_renderAt _, countText_renderAt _, stringText_renderAt _, stringText_renderAt _,
    stringText_renderAt _, stringText_renderAt _⟩

theorem choiceText_renderAt (choice : String × Nat) (level : Nat) :
    ChoiceText choice ((choiceValue choice).renderAt level).toList := by
  refine fieldsText_renderAt ?_ level
  simp only [List.forall₂_cons, List.Forall₂.nil, and_true, true_and]
  exact ⟨countText_renderAt _, stringText_renderAt _⟩

theorem listText_rows (t : Trace) (g : Grammar) (level : Nat) :
    ListText (fun c ↦ RowText (c.row g)) t.toList
      ((Value.array ((t.rows g).map rowValue)).renderAt level).toList := by
  have hrows : (t.rows g).map rowValue = t.toList.map fun c ↦ rowValue (c.row g) := by
    rw [rows, List.map_map]
    rfl
  rw [hrows]
  refine listText_renderAt (fun c ↦ ?_) t.toList level
  exact rowText_renderAt (c.row g)

theorem reported_json (t : Trace) (g : Grammar) :
    t.Reported g t.accepted .json (t.report g .json) := by
  refine ⟨(t.toJsonValue g).render, rfl, fieldsText_renderAt ?_ 0⟩
  simp only [List.forall₂_cons, List.Forall₂.nil, and_true, true_and]
  refine ⟨boolText_renderAt _, fun level ↦ ?_, countText_renderAt _, listText_rows t g⟩
  cases t.derivation? g with
  | none => exact nullText_renderAt level
  | some choices => exact listText_renderAt choiceText_renderAt choices level

theorem reported_report (t : Trace) (g : Grammar) (format : ReportFormat) :
    t.Reported g t.accepted format (t.report g format) := by
  cases format with
  | table => exact reported_table t g
  | json => exact reported_json t g
  | summary => rfl

end Trace

end TopDown
