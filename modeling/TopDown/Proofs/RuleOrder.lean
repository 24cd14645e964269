import Mathlib.Data.List.Perm.Basic
import TopDown.Proofs.ParserLoop
import TopDown.Proofs.RuleInclusion

namespace TopDown

namespace GrammarBuilder

variable {b b' : GrammarBuilder} {g g' : Grammar}

theorem nonTerminal?_of_build (h : b.build = .ok g) (name : String) :
    g.nonTerminal? name = b.rules.findIdx? (·.name == name) := by
  have hnames := ruleNames_of_build h
  rw [Grammar.nonTerminal?, findIdx?_eq_idxOf?_map, ← Grammar.ruleNames, hnames,
    ← List.findIdx?_toArray, findIdx?_eq_idxOf?_map]
  rfl

/-- The builders differ in the order of the rules, and of the texts with a tag. -/
structure Reorders (b b' : GrammarBuilder) : Prop where
  rules : b.rules.Perm b'.rules
  entryPoint : b.entryPoint = b'.entryPoint
  mem_patterns_iff : ∀ text, text ∈ b.patterns ↔ text ∈ b'.patterns
  mem_literals_iff : ∀ text, text ∈ b.literals ↔ text ∈ b'.literals
  policy : b.policy = b'.policy
  endMarker : b.endMarker = b'.endMarker
  allowLeftRecursion : b.allowLeftRecursion = b'.allowLeftRecursion

namespace Reorders

theorem symm (h : b.Reorders b') : b'.Reorders b where
  rules := h.rules.symm
  entryPoint := h.entryPoint.symm
  mem_patterns_iff text := (h.mem_patterns_iff text).symm
  mem_literals_iff text := (h.mem_literals_iff text).symm
  policy := h.policy.symm
  endMarker := h.endMarker.symm
  allowLeftRecursion := h.allowLeftRecursion.symm

theorem ruleNames (h : b.Reorders b') : b.ruleNames.Perm b'.ruleNames :=
  h.rules.map _

theorem within (h : b.Reorders b') (hb : b.ruleNames.Nodup) : b.Within b' where
  rules := h.rules.subset
  nodup_names := hb
  nodup_names_of := h.ruleNames.nodup_iff.mp hb
  closed _ _ hr := h.ruleNames.mem_iff.mpr hr
  entryPoint := h.entryPoint
  mem_of_entryPoint _ _ hr := h.ruleNames.mem_iff.mpr hr
  mem_patterns_iff := h.mem_patterns_iff
  mem_literals_iff := h.mem_literals_iff
  policy := h.policy
  endMarker := h.endMarker
  allowLeftRecursion := h.allowLeftRecursion

theorem exists_build (h : b.Reorders b') (hb : b.ruleNames.Nodup) (hg : b.build = .ok g) :
    ∃ g', b'.build = .ok g' :=
  (h.symm.within (h.ruleNames.nodup_iff.mp hb)).exists_build hg

theorem embeds (h : b.Reorders b') (hb : b.ruleNames.Nodup) (hg : b.build = .ok g)
    (hg' : b'.build = .ok g') :
    (symbolMap b b').Embeds g g' ∧ g'.entryPoint = (symbolMap b b').nonTerminal g.entryPoint :=
  (h.within hb).embeds hg hg'

theorem nonTerminal? (h : b.Reorders b') (hb : b.ruleNames.Nodup) (hg : b.build = .ok g)
    (hg' : b'.build = .ok g') (name : String) :
    g'.nonTerminal? name = (g.nonTerminal? name).map (symbolMap b b').nonTerminal := by
  rw [nonTerminal?_of_build hg, nonTerminal?_of_build hg']
  exact (h.within hb).findIdx?_name h.ruleNames.mem_iff.mpr

end Reorders

end GrammarBuilder

open TopDown.GrammarBuilder

/-- Builders that list the same rules in different orders build grammars that parse alike. -/
theorem parses_alike_of_reorders {b b' : GrammarBuilder} (hb : b.Made) (h : b.Reorders b') :
    ((∃ g, b.build = .ok g) ↔ ∃ g', b'.build = .ok g') ∧
    ∀ g g', b.build = .ok g → b'.build = .ok g' →
      ∀ (tokens : List String) (start : Option String) (limits : Limits) (clock : Nat → Nat)
        (patience : Nat),
        (g'.parse? tokens start limits clock patience).map g'.outcome =
          (g.parse? tokens start limits clock patience).map g.outcome ∧
        (limits.maxSteps.isSome → (g.parse? tokens start limits clock patience).isSome) := by
  have hn : b.ruleNames.Nodup := hb.nodup_names
  have hn' : b'.ruleNames.Nodup := h.ruleNames.nodup_iff.mp hn
  refine ⟨⟨fun ⟨g, hg⟩ ↦ h.exists_build hn hg, fun ⟨g', hg'⟩ ↦ h.symm.exists_build hn' hg'⟩, ?_⟩
  intro g g' hg hg' tokens start limits clock patience
  obtain ⟨hembeds, hentry⟩ := h.embeds hn hg hg'
  refine ⟨?_, fun hl ↦ g.isSome_parse? tokens start hl clock patience⟩
  unfold Grammar.parse?
  rw [hembeds.endMarker]
  cases start with
  | none =>
    rw [hentry]
    exact Grammar.outcome_parseStream? hembeds _ _ _ _ _
  | some name =>
    simp only [h.nonTerminal? hn hg hg']
    cases g.nonTerminal? name with
    | none => rfl
    | some id => exact Grammar.outcome_parseStream? hembeds _ _ _ _ _

def GrammarBuilder.reversed (b : GrammarBuilder) : GrammarBuilder :=
  { b with rules := b.rules.reverse }

theorem GrammarBuilder.reorders_reversed (b : GrammarBuilder) : b.Reorders b.reversed where
  rules := (List.reverse_perm b.rules).symm
  entryPoint := rfl
  mem_patterns_iff _ := .rfl
  mem_literals_iff _ := .rfl
  policy := rfl
  endMarker := rfl
  allowLeftRecursion := rfl

def Grammar.editedReversed : Grammar where
  rules := #[⟨"A", [[.terminal 0, .terminal 1]]⟩,
    ⟨"S", [[.nonTerminal 0, .terminal 2], [.terminal 3, .terminal 0, .terminal 3]]⟩]
  terminals := #[.pattern ⟨"a.", .seq (.look .textStart (.property .word))
    (.seq (.seq (.set (.range 'a' 'a')) (.set (Regex.CharSet.range '\n' '\n').compl))
    (.look .textEnd (.property .word)))⟩, .literal "b.", .literal "x", .literal "B"]
  entryPoint := 1
  endMarker := defaultEndMarker
  allowLeftRecursion := false
  warnings := [.ambiguousTerminal "a."]

theorem build_editedReversed : GrammarBuilder.edited.reversed.build = .ok .editedReversed := by
  decide +kernel

theorem parses_alike_of_reorders_edited :
    GrammarBuilder.edited.Made ∧ GrammarBuilder.edited.Reorders GrammarBuilder.edited.reversed ∧
      (Grammar.editedReversed.parse? ["ab", "b.", "y"] none {} (fun _ ↦ 0) 0).map
        Grammar.editedReversed.outcome =
          (Grammar.edited.parse? ["ab", "b.", "y"] none {} (fun _ ↦ 0) 0).map
            Grammar.edited.outcome ∧
      (Grammar.edited.parse? ["ab", "b.", "y"] none {} (fun _ ↦ 0) 0).isSome := by
  have hr := GrammarBuilder.edited.reorders_reversed
  obtain ⟨heq, hsome⟩ := (parses_alike_of_reorders made_edited hr).2 .edited .editedReversed
    build_edited build_editedReversed ["ab", "b.", "y"] none {} (fun _ ↦ 0) 0
  exact ⟨made_edited, hr, heq, hsome rfl⟩

end TopDown
