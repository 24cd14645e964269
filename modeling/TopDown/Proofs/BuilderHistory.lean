import Mathlib.Data.List.Nodup
import TopDown.Proofs.BuiltGrammar
import TopDown.Table.Basic

namespace TopDown

namespace GrammarBuilder

variable {b b' : GrammarBuilder}

/-- The builders that come about by edits of the empty one. -/
inductive Made : GrammarBuilder → Prop
  | empty : Made {}
  | withEntryPoint {b : GrammarBuilder} (hb : Made b) (name : String) : Made (b.withEntryPoint name)
  | withRule {b : GrammarBuilder} (hb : Made b) (name : String)
      (alternatives : List (List String)) : Made (b.withRule name alternatives)
  | withPattern {b : GrammarBuilder} (hb : Made b) (text : String) : Made (b.withPattern text)
  | withLiteral {b : GrammarBuilder} (hb : Made b) (text : String) : Made (b.withLiteral text)
  | withPolicy {b : GrammarBuilder} (hb : Made b) (policy : TerminalPolicy) :
      Made (b.withPolicy policy)
  | withEndMarker {b : GrammarBuilder} (hb : Made b) (text : String) : Made (b.withEndMarker text)
  | allowingLeftRecursion {b : GrammarBuilder} (hb : Made b) : Made b.allowingLeftRecursion
  | addRule {b b' : GrammarBuilder} (hb : Made b) {name : String}
      {alternatives : List (List String)} (h : b.addRule name alternatives = .ok b') : Made b'
  | replaceRule {b b' : GrammarBuilder} (hb : Made b) {name : String}
      {alternatives : List (List String)} (h : b.replaceRule name alternatives = .ok b') : Made b'
  | removeRule {b b' : GrammarBuilder} (hb : Made b) {name : String}
      (h : b.removeRule name = .ok b') : Made b'

theorem hasRule_eq_true_iff {name : String} :
    b.hasRule name = true ↔ name ∈ b.rules.map (·.name) := by
  simp only [hasRule, List.any_eq_true, beq_iff_eq, List.mem_map]

theorem names_updateRule (b : GrammarBuilder) (name : String)
    (f : List (List String) → List (List String)) :
    (b.updateRule name f).rules.map (·.name) = b.rules.map (·.name) := by
  rw [updateRule, List.map_map]
  refine List.map_congr_left fun rule _ ↦ ?_
  rw [Function.comp_apply]
  split <;> rfl

theorem nodup_names_pushRule {name : String} (alternatives : List (List String))
    (hb : (b.rules.map (·.name)).Nodup) (h : b.hasRule name = false) :
    ((b.pushRule name alternatives).rules.map (·.name)).Nodup := by
  have hn : name ∉ b.rules.map (·.name) := by
    rw [← hasRule_eq_true_iff, h]
    exact Bool.false_ne_true
  rw [pushRule, List.map_append, List.map_singleton, ← List.concat_eq_append]
  exact hb.concat hn

theorem Made.nodup_names (h : b.Made) : (b.rules.map (·.name)).Nodup := by
  induction h with
  | empty => exact List.nodup_nil
  | @withRule b _ name alternatives ih =>
    rw [GrammarBuilder.withRule]
    split
    · rwa [names_updateRule]
    · next hn => exact nodup_names_pushRule alternatives ih (Bool.eq_false_iff.mpr hn)
  | addRule _ h ih =>
    unfold GrammarBuilder.addRule at h
    split at h
    · cases h
    · next hn =>
      cases h
      exact nodup_names_pushRule _ ih (Bool.eq_false_iff.mpr hn)
  | replaceRule _ h ih =>
    unfold GrammarBuilder.replaceRule at h
    split at h
    · cases h
      rwa [names_updateRule]
    · cases h
  | removeRule _ h ih =>
    unfold GrammarBuilder.removeRule at h
    split at h
    · cases h
      exact ih.sublist (List.filter_sublist.map _)
    · cases h
  | withEntryPoint _ _ ih | withPattern _ _ ih | withLiteral _ _ ih | withPolicy _ _ ih
  | withEndMarker _ _ ih | allowingLeftRecursion _ ih => exact ih

theorem Made.patterns_append (h : b.Made) (texts : List String) :
    Made { b with patterns := b.patterns ++ texts } := by
  induction texts generalizing b with
  | nil => rwa [List.append_nil]
  | cons text texts ih =>
    rw [List.append_cons]
    exact ih (h.withPattern text)

theorem Made.literals_append (h : b.Made) (texts : List String) :
    Made { b with literals := b.literals ++ texts } := by
  induction texts generalizing b with
  | nil => rwa [List.append_nil]
  | cons text texts ih =>
    rw [List.append_cons]
    exact ih (h.withLiteral text)

theorem Made.withRules (h : b.Made) (rules : List RuleDraft) :
    Made (rules.foldl (fun b rule ↦ b.withRule rule.name rule.alternatives) b) := by
  induction rules generalizing b with
  | nil => exact h
  | cons rule rules ih => exact ih (h.withRule rule.name rule.alternatives)

theorem foldl_withRule_eq {rules : List RuleDraft} (h : ((b.rules ++ rules).map (·.name)).Nodup) :
    rules.foldl (fun b rule ↦ b.withRule rule.name rule.alternatives) b =
      { b with rules := b.rules ++ rules } := by
  induction rules generalizing b with
  | nil => rw [List.append_nil, List.foldl_nil]
  | cons rule rules ih =>
    have hn : ¬ b.hasRule rule.name = true := by
      rw [hasRule_eq_true_iff]
      rw [List.map_append, List.nodup_append] at h
      exact fun hm ↦ h.2.2 _ hm rule.name (by simp) rfl
    have hpush : b.withRule rule.name rule.alternatives = b.pushRule rule.name rule.alternatives :=
      if_neg hn
    rw [List.append_cons] at h
    rw [List.foldl_cons, hpush, ih h, pushRule, List.append_assoc, List.singleton_append]

end GrammarBuilder

namespace GrammarTable

theorem made_toBuilder (t : GrammarTable) : t.toBuilder.Made := by
  have h := ((GrammarBuilder.Made.empty.withEntryPoint t.start).withEndMarker
    t.endMarker).withPolicy t.policy
  have hl : GrammarBuilder.Made {
      entryPoint := some t.start
      endMarker := t.endMarker
      policy := t.policy
      allowLeftRecursion := t.allowLeftRecursion } := by
    cases t.allowLeftRecursion with
    | false => exact h
    | true => exact h.allowingLeftRecursion
  exact ((hl.patterns_append t.patterns).literals_append t.literals).withRules t.rules

end GrammarTable

end TopDown
