import Mathlib.Data.Nat.Digits.Defs
import TopDown.Proofs.StepBudget
import TopDown.Proofs.TokenText

namespace TopDown

open TopDown.Configuration

namespace Text

variable {width : Nat} {text : String} {field : List Char}

/--
The fields of a line in columns of these widths, with two characters between each two of them; the
rest of the line is one more field.
-/
def columns : List Nat → List Char → List (List Char)
  | [], line => [line]
  | width :: widths, line => line.take width :: columns widths (line.drop (width + 2))

theorem columns_intercalate {widths : List Nat} {fields : List (List Char)} {gap last : List Char}
    (hgap : gap.length = 2) (hfields : fields.map List.length = widths) :
    columns widths (gap.intercalate (fields ++ [last])) = fields ++ [last] := by
  induction fields generalizing widths with
  | nil =>
    subst hfields
    rw [List.nil_append, List.intercalate_singleton]
    rfl
  | cons field fields ih =>
    subst hfields
    obtain ⟨next, others, hnext⟩ : ∃ next others, fields ++ [last] = next :: others :=
      List.exists_cons_of_ne_nil (by simp)
    rw [List.map_cons, columns, List.cons_append, hnext, List.intercalate_cons_cons, ← hnext,
      List.append_assoc, List.take_left, ← hgap, ← List.length_append, ← List.append_assoc,
      List.drop_left, ih rfl]

def RightAligned (width : Nat) (text : String) (field : List Char) : Prop :=
  field.length = width ∧ ∃ n, field = List.replicate n ' ' ++ text.toList

def LeftAligned (width : Nat) (text : String) (field : List Char) : Prop :=
  field.length = width ∧ ∃ n, field = text.toList ++ List.replicate n ' '

theorem rightAligned_padLeft (h : text.length ≤ width) :
    RightAligned width text (padLeft width text).toList := by
  have hfield : (padLeft width text).toList =
      List.replicate (width - text.length) ' ' ++ text.toList := by
    rw [padLeft, String.toList_append, String.toList_ofList]
  refine ⟨?_, _, hfield⟩
  rw [hfield, List.length_append, List.length_replicate, String.length_toList]
  omega

theorem leftAligned_padRight (h : text.length ≤ width) :
    LeftAligned width text (padRight width text).toList := by
  have hfield : (padRight width text).toList =
      text.toList ++ List.replicate (width - text.length) ' ' := by
    rw [padRight, String.toList_append, String.toList_ofList]
  refine ⟨?_, _, hfield⟩
  rw [hfield, List.length_append, List.length_replicate, String.length_toList]
  omega

theorem leftAligned_self : LeftAligned text.length text text.toList :=
  ⟨String.length_toList, 0, (List.append_nil _).symm⟩

end Text

namespace Trace

open TopDown.Text

variable {w : Widths} {line step mode cursor rule matched pending alternatives : String}
  {rows : List TraceRow} {row : TraceRow}

def Widths.columns (w : Widths) : List Nat :=
  [5, 1, 6, 4, w.matched, w.pending]

/-- The fields of a line, in columns with two spaces between them, show the texts. -/
structure Widths.Shows (w : Widths)
    (line step mode cursor rule matched pending alternatives : String) : Prop where
  spaced : [' ', ' '].intercalate (Text.columns w.columns line.toList) = line.toList
  fields : List.Forall₂ (fun shows field ↦ shows field)
    [RightAligned 5 step, LeftAligned 1 mode, RightAligned 6 cursor, LeftAligned 4 rule,
      LeftAligned w.matched matched, LeftAligned w.pending pending, (· = alternatives.toList)]
    (Text.columns w.columns line.toList)

theorem shows_tableLine (hstep : step.length ≤ 5) (hmode : mode.length = 1)
    (hcursor : cursor.length ≤ 6) (hrule : rule.length ≤ 4) (hmatched : matched.length ≤ w.matched)
    (hpending : pending.length ≤ w.pending) :
    w.Shows (tableLine w step mode cursor rule matched pending alternatives) step mode cursor rule
      matched pending alternatives := by
  have hstep := rightAligned_padLeft hstep
  have hmode : LeftAligned 1 mode mode.toList := hmode ▸ leftAligned_self
  have hcursor := rightAligned_padLeft hcursor
  have hrule := leftAligned_padRight hrule
  have hmatched := leftAligned_padRight hmatched
  have hpending := leftAligned_padRight hpending
  have hline : (tableLine w step mode cursor rule matched pending alternatives).toList =
      [' ', ' '].intercalate ([(padLeft 5 step).toList, mode.toList, (padLeft 6 cursor).toList,
        (padRight 4 rule).toList, (padRight w.matched matched).toList,
        (padRight w.pending pending).toList] ++ [alternatives.toList]) :=
    String.toList_intercalate
  have hcolumns := congrArg (Text.columns w.columns) hline
  rw [columns_intercalate rfl] at hcolumns
  · constructor
    · rw [hcolumns, hline]
    · rw [hcolumns]
      exact .cons hstep (.cons hmode (.cons hcursor (.cons hrule (.cons hmatched (.cons hpending
        (.cons rfl .nil))))))
  · simp only [List.map_cons, List.map_nil, hstep.1, hmode.1, hcursor.1, hrule.1, hmatched.1,
      hpending.1, Widths.columns]

theorem le_foldl_max {α : Type} (f : α → Nat) (least : Nat) (xs : List α) :
    least ≤ xs.foldl (fun w x ↦ max w (f x)) least ∧
      ∀ x ∈ xs, f x ≤ xs.foldl (fun w x ↦ max w (f x)) least := by
  induction xs generalizing least with
  | nil => exact ⟨Nat.le_refl least, nofun⟩
  | cons x xs ih =>
    obtain ⟨hleast, hxs⟩ := ih (max least (f x))
    rw [List.foldl_cons]
    exact ⟨(Nat.le_max_left _ _).trans hleast,
      List.forall_mem_cons.mpr ⟨(Nat.le_max_right _ _).trans hleast, hxs⟩⟩

theorem length_toString_le {n k : Nat} (hk : 0 < k) (h : n < 10 ^ k) : (toString n).length ≤ k :=
  Nat.repr_length n k hk h

theorem length_tag_le (t : Transition) : t.tag.length ≤ 4 := by
  cases t <;> decide

theorem shows_header (rows : List TraceRow) :
    (widths rows).Shows (tableLine (widths rows) "step" "s" "cursor" "rule" "matched" "pending"
      "alternatives") "step" "s" "cursor" "rule" "matched" "pending" "alternatives" := by
  apply shows_tableLine
  · decide
  · decide
  · decide
  · decide
  · exact (le_foldl_max (fun row : TraceRow ↦ row.matched.length) _ rows).1
  · exact (le_foldl_max (fun row : TraceRow ↦ row.pending.length) _ rows).1

theorem shows_rowLine (hrow : row ∈ rows) {i : Nat} (hi : i < 10 ^ 5) (hcursor : row.cursor ≤ i)
    (hrule : row.rule.length ≤ 4) :
    (widths rows).Shows (rowLine (widths rows) i row) (toString i) (String.singleton row.mode)
      (toString row.cursor) row.rule row.matched row.pending row.alternatives := by
  apply shows_tableLine
  · exact length_toString_le (by decide) hi
  · exact String.length_singleton
  · exact length_toString_le (by decide) (by omega)
  · exact hrule
  · exact (le_foldl_max (fun row : TraceRow ↦ row.matched.length) _ rows).2 row hrow
  · exact (le_foldl_max (fun row : TraceRow ↦ row.pending.length) _ rows).2 row hrow

end Trace

namespace Configuration

variable {g : Grammar} {s : TokenStream} {c d : Configuration} {n : Nat}

theorem Step.cursor_le_succ (h : Step g s c d) : d.cursor ≤ c.cursor + 1 := by
  cases h with
  | consume => exact Nat.le_refl _
  | retreat => exact Nat.le_add_right _ 2
  | expansion | acceptance | mismatch | earlyEnd | nextAlternative | reject | escalate =>
    exact Nat.le_succ _

theorem Run.cursor_le_add (h : Run g s n c d) : d.cursor ≤ c.cursor + n := by
  induction h with
  | zero => exact Nat.le_refl _
  | cons hs _ ih =>
    have := (step_eq_ok_iff.mp hs).cursor_le_succ
    omega

end Configuration

theorem Grammar.Records.cursor_le {g : Grammar} {s : TokenStream} {t : Trace} (h : g.Records s t)
    {i : Nat} {c : Configuration} (hc : t.toList[i]? = some c) : c.cursor ≤ i := by
  obtain ⟨⟨start, hfirst⟩, hchain⟩ := h.isChain
  obtain ⟨-, hrun⟩ := (getElem?_eq_some_iff_of_isChain hchain).mp hc
  have hle := hrun.cursor_le_add
  rwa [hfirst, initial, Nat.zero_add] at hle

namespace Text

variable {sep text : String} {parts : List String}

theorem not_lineFeed_intercalate (hsep : '\n' ∉ sep.toList)
    (h : ∀ part ∈ parts, '\n' ∉ part.toList) : '\n' ∉ (sep.intercalate parts).toList := by
  rw [String.toList_intercalate]
  intro hn
  obtain hn | ⟨part, hpart, hn⟩ := mem_intercalate hn
  · exact hsep hn
  · obtain ⟨text, htext, rfl⟩ := List.mem_map.mp hpart
    exact h text htext hn

theorem not_lineFeed_padLeft (width : Nat) (h : '\n' ∉ text.toList) :
    '\n' ∉ (padLeft width text).toList := by
  simp [padLeft, h]

theorem not_lineFeed_padRight (width : Nat) (h : '\n' ∉ text.toList) :
    '\n' ∉ (padRight width text).toList := by
  simp [padRight, h]

theorem not_lineFeed_toString (n : Nat) : '\n' ∉ (toString n).toList := by
  intro hn
  have hdigit := Nat.isDigit_of_mem_toDigits (by decide) (by decide) (Nat.toList_repr ▸ hn)
  cases hdigit

end Text

theorem not_lineFeed_name {g : Grammar}
    (hrules : ∀ rule ∈ g.rules.toList, '\n' ∉ rule.name.toList)
    (hterminals : ∀ terminal ∈ g.terminals.toList, '\n' ∉ terminal.text.toList)
    (hmarker : '\n' ∉ g.endMarker.toList) (x : Symbol) : '\n' ∉ (g.name x).toList := by
  cases x with
  | nonTerminal id =>
    rw [Grammar.name, Grammar.ruleName]
    split
    · next rule hrule => exact hrules rule (Array.mem_toList_iff.mpr (Array.mem_of_getElem? hrule))
    · exact List.not_mem_nil
  | terminal id =>
    rw [Grammar.name]
    split
    · next terminal ht =>
      exact hterminals terminal (Array.mem_toList_iff.mpr (Array.mem_of_getElem? ht))
    · exact List.not_mem_nil
  | endMarker => exact hmarker

namespace Trace

open TopDown.Text

variable {w : Widths} {step mode cursor rule matched pending alternatives : String}

theorem not_lineFeed_tableLine (hstep : '\n' ∉ step.toList) (hmode : '\n' ∉ mode.toList)
    (hcursor : '\n' ∉ cursor.toList) (hrule : '\n' ∉ rule.toList)
    (hmatched : '\n' ∉ matched.toList) (hpending : '\n' ∉ pending.toList)
    (halternatives : '\n' ∉ alternatives.toList) :
    '\n' ∉ (tableLine w step mode cursor rule matched pending alternatives).toList := by
  apply not_lineFeed_intercalate (by decide)
  simp only [List.forall_mem_cons]
  exact ⟨not_lineFeed_padLeft 5 hstep, hmode, not_lineFeed_padLeft 6 hcursor,
    not_lineFeed_padRight 4 hrule, not_lineFeed_padRight _ hmatched,
    not_lineFeed_padRight _ hpending, halternatives, nofun⟩

theorem not_lineFeed_rowLine {g : Grammar} (hg : ∀ x, '\n' ∉ (g.name x).toList) (i : Nat)
    (c : Configuration) : '\n' ∉ (rowLine w i (c.row g)).toList := by
  have hnames (xs : List Symbol) : '\n' ∉ (" ".intercalate (xs.map g.name)).toList :=
    not_lineFeed_intercalate (by decide) (List.forall_mem_map.mpr fun x _ ↦ hg x)
  apply not_lineFeed_tableLine
  · exact not_lineFeed_toString i
  · cases hm : c.mode <;> simp [row, hm, Mode.code]
  · exact not_lineFeed_toString c.cursor
  · cases ht : c.transition <;> simp [row, ht, Transition.tag]
  · exact hnames c.matched.bottomUp
  · exact hnames c.pending.values
  · exact not_lineFeed_intercalate (by decide)
      (List.forall_mem_map.mpr fun n _ ↦ not_lineFeed_toString n)

end Trace

open TopDown.Trace

/--
The table of a trace has a line for its headings and one for each configuration. On every line the
fields stand in the same columns, which are wide enough for all of them.
-/
theorem render_fixed_width {g : Grammar} {s : TokenStream} {t : Trace} (h : g.Records s t)
    (hsize : t.size ≤ 100000) (hrules : ∀ rule ∈ g.rules.toList, '\n' ∉ rule.name.toList)
    (hterminals : ∀ terminal ∈ g.terminals.toList, '\n' ∉ terminal.text.toList)
    (hmarker : '\n' ∉ g.endMarker.toList) :
    ∃ (w : Widths) (header : String) (lines : List String),
      t.render g = Text.unlines (header :: lines) ∧ lines.length = t.size ∧
      (∀ line ∈ header :: lines, '\n' ∉ line.toList) ∧
      w.Shows header "step" "s" "cursor" "rule" "matched" "pending" "alternatives" ∧
      ∀ (i : Nat) (row : TraceRow), (t.rows g)[i]? = some row →
        ∃ line, lines[i]? = some line ∧
          w.Shows line (toString i) (String.singleton row.mode) (toString row.cursor) row.rule
            row.matched row.pending row.alternatives := by
  refine ⟨widths (t.rows g), _, _, rfl, ?_, ?_, shows_header _, ?_⟩
  · rw [List.length_mapIdx, length_rows]
  · rw [List.forall_mem_cons]
    constructor
    · apply not_lineFeed_tableLine <;> decide
    · intro line hline
      obtain ⟨i, hi, rfl⟩ := List.mem_mapIdx.mp hline
      simp only [rows, List.getElem_map]
      exact not_lineFeed_rowLine (not_lineFeed_name hrules hterminals hmarker) i _
  · intro i row hrow
    refine ⟨rowLine _ i row, by rw [List.getElem?_mapIdx, hrow]; rfl, ?_⟩
    have hmem := List.mem_of_getElem? hrow
    obtain ⟨hlt, -⟩ := List.getElem?_eq_some_iff.mp hrow
    rw [length_rows] at hlt
    rw [rows, List.getElem?_map] at hrow
    obtain ⟨c, hc, rfl⟩ := Option.map_eq_some_iff.mp hrow
    exact shows_rowLine hmem (by omega) (h.cursor_le hc) (length_tag_le c.transition)

theorem render_fixed_width_oneOrTwo :
    ∃ t, Grammar.oneOrTwo.parse? ["a", "a", "b"] none {} (fun _ ↦ 0) 0 = some (.ok t) ∧
      t.size = 11 ∧ ∃ (w : Widths) (header : String) (lines : List String),
        t.render .oneOrTwo = Text.unlines (header :: lines) ∧ lines.length = 11 ∧
        w.Shows header "step" "s" "cursor" "rule" "matched" "pending" "alternatives" ∧
        ∃ line, lines[10]? = some line ∧
          w.Shows line "10" "t" "3" "3" "S A a a b" "#" "0 1" := by
  have hp : (Grammar.oneOrTwo.parse? ["a", "a", "b"] none {} (fun _ ↦ 0) 0).any (fun r ↦
      r.toOption.any fun t ↦ t.size == 11 && (t.rows .oneOrTwo)[10]? ==
        some ⟨'t', 3, "3", "S A a a b", "#", "0 1"⟩) = true := by
    decide +kernel
  obtain ⟨r, hr, hp⟩ := (Option.any_eq_true _ _).mp hp
  cases r with
  | error e => cases hp
  | ok t =>
    simp only [Except.toOption, Option.any_some, Bool.and_eq_true, beq_iff_eq] at hp
    obtain ⟨w, header, lines, hrender, hlength, -, hheader, hrows⟩ :=
      render_fixed_width (.parse hr rfl) (by omega) (by decide) (by decide) (by decide)
    exact ⟨t, hr, hp.1, w, header, lines, hrender, hlength.trans hp.1, hheader, hrows 10 _ hp.2⟩

end TopDown
