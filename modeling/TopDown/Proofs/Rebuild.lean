import TopDown.Proofs.BuilderHistory
import TopDown.Proofs.LeftRecursion
import TopDown.Proofs.ParserLoop
import TopDown.Proofs.TableText

namespace TopDown

def GrammarWarning.isAmbiguous : GrammarWarning → Bool
  | .ambiguousTerminal _ => true
  | .leftRecursion _ | .unreachableRule _ => false

namespace Grammar

section

variable {g g' : Grammar} (hr : g'.rules = g.rules) (he : g'.entryPoint = g.entryPoint)
include hr

theorem alternativesOf_congr : g'.alternativesOf = g.alternativesOf := by
  funext id
  rw [alternativesOf, hr, alternativesOf]

theorem ruleName_congr : g'.ruleName = g.ruleName := by
  funext id
  rw [ruleName, hr, ruleName]

include he

theorem unreachableRules_congr : g'.unreachableRules = g.unreachableRules := by
  have hround : g'.reachableRound = g.reachableRound := by
    have hmentions : g'.mentions = g.mentions := by
      funext id
      rw [mentions, alternativesOf_congr hr, mentions]
    funext known
    rw [reachableRound, reachableRound, nonTerminals, nonTerminals, hr, hmentions]
  have h (n : Nat) : g'.reachableAfter n = g.reachableAfter n := by
    induction n with
    | zero => rw [reachableAfter, reachableAfter, hr, he]
    | succ n ih => rw [reachableAfter, reachableAfter, ih, hround]
  rw [unreachableRules, unreachableRules, reachable, reachable, h, nonTerminals, nonTerminals, hr]

theorem validate_congr (allowLeftRecursion : Bool) :
    g'.validate allowLeftRecursion = g.validate allowLeftRecursion := by
  rw [validate, validate, leftRecursiveCycles_congr hr, unreachableRules_congr hr he,
    ruleName_congr hr]

end

variable (g : Grammar) (warnings : List GrammarWarning)

theorem unreachableRules_warnings :
    ({ g with warnings } : Grammar).unreachableRules = g.unreachableRules :=
  unreachableRules_congr (by rfl) (by rfl)

theorem validate_warnings (allowLeftRecursion : Bool) :
    ({ g with warnings } : Grammar).validate allowLeftRecursion =
      g.validate allowLeftRecursion :=
  validate_congr (by rfl) (by rfl) allowLeftRecursion

theorem parse?_warnings (tokens : List String) (start : Option String) (limits : Limits)
    (clock : Nat → Nat) (patience : Nat) :
    ({ g with warnings } : Grammar).parse? tokens start limits clock patience =
      g.parse? tokens start limits clock patience := by
  have hstep (s : TokenStream) (c : Configuration) : c.step { g with warnings } s = c.step g s :=
    rfl
  unfold parse?
  simp only [parseStream?_congr (hstep _)]
  rfl

theorem isAmbiguous_of_validate {g : Grammar} {allowLeftRecursion : Bool}
    {warnings : List GrammarWarning} (h : g.validate allowLeftRecursion = .ok warnings)
    {warning : GrammarWarning} (hw : warning ∈ warnings) : warning.isAmbiguous = false := by
  unfold validate at h
  dsimp only at h
  split at h
  · cases h
  · cases h
    rw [List.mem_append, List.mem_map, List.mem_map] at hw
    obtain ⟨_, -, rfl⟩ | ⟨_, -, rfl⟩ := hw <;> rfl

end Grammar

theorem Pattern.ofSource_eq_ok_iff {source : String} {p : Pattern} :
    ofSource source = .ok p ↔ Regex.parse (anchored source) = .ok p.regex ∧ p.source = source := by
  obtain ⟨source', regex⟩ := p
  unfold ofSource
  cases Regex.parse (anchored source) with
  | error e => exact ⟨nofun, nofun⟩
  | ok r =>
    constructor
    · rintro ⟨⟩
      exact ⟨rfl, rfl⟩
    · rintro ⟨⟨⟩, rfl⟩
      rfl

namespace GrammarBuilder

variable {b b' : GrammarBuilder} {g : Grammar} {text : String} {t : Terminal}

theorem compilePattern_eq_ok_iff {p : Pattern} :
    compilePattern text = .ok p ↔ Pattern.ofSource text = .ok p := by
  unfold compilePattern
  cases Pattern.ofSource text <;> simp

theorem compilePattern_source {p : Pattern} (h : compilePattern text = .ok p) :
    p.source = text :=
  (Pattern.ofSource_eq_ok_iff.mp (compilePattern_eq_ok_iff.mp h)).2

theorem classify_eq_ok_pattern {p : Pattern} (h : b.classify text = .ok (.pattern p)) :
    compilePattern text = .ok p := by
  unfold classify at h
  split at h
  · cases hp : compilePattern text with
    | error e =>
      rw [hp] at h
      cases h
    | ok q =>
      rw [hp] at h
      cases h
      rfl
  · cases h

theorem text_of_classify (h : b.classify text = .ok t) : t.text = text := by
  cases t with
  | pattern p => exact compilePattern_source (classify_eq_ok_pattern h)
  | literal s =>
    unfold classify at h
    split at h
    · cases hp : compilePattern text <;> rw [hp] at h <;> cases h
    · cases h
      rfl

theorem forall₂_classify (h : b.build = .ok g) :
    List.Forall₂ (fun text t ↦ b.classify text = .ok t) b.terminalTexts g.terminals.toList := by
  obtain ⟨entryPoint, terminals, warnings, -, -, ht, -, rfl⟩ := build_eq_ok_iff.mp h
  exact mapM_eq_ok_iff.mp ht

theorem texts_terminals (h : b.build = .ok g) :
    g.terminals.toList.map (·.text) = b.terminalTexts := by
  rw [← List.forall₂_eq_eq_eq, List.forall₂_map_left_iff]
  exact (forall₂_classify h).flip.imp fun _ _ ↦ text_of_classify

theorem classify_text (h : b.build = .ok g) (ht : t ∈ g.terminals.toList) :
    b.classify t.text = .ok t := by
  have hc := forall₂_classify h
  rw [← texts_terminals h, List.forall₂_map_left_iff, List.forall₂_same] at hc
  exact hc t ht

theorem eq_of_text_eq (h : b.build = .ok g) {t' : Terminal} (ht : t ∈ g.terminals.toList)
    (ht' : t' ∈ g.terminals.toList) (heq : t.text = t'.text) : t = t' := by
  have hc := classify_text h ht
  rw [heq, classify_text h ht'] at hc
  exact (Except.ok.inj hc).symm

theorem hasRule_text (h : b.build = .ok g) (ht : t ∈ g.terminals.toList) :
    b.hasRule t.text = false := by
  have hm : t.text ∈ b.terminalTexts := texts_terminals h ▸ List.mem_map_of_mem ht
  simp only [terminalTexts, List.mem_eraseDups, List.mem_flatMap, List.mem_filter,
    Bool.not_eq_true'] at hm
  obtain ⟨_, -, -, hn⟩ := hm
  exact hn

theorem rules_of_build (h : b.build = .ok g) :
    g.rules.toList = b.rules.map (b.resolveRule b.terminalTexts) := by
  obtain ⟨entryPoint, terminals, warnings, -, -, -, -, rfl⟩ := build_eq_ok_iff.mp h
  rfl

theorem ruleName_of_build (h : b.build = .ok g) {id : Nat} (hid : id < b.rules.length) :
    g.ruleName id = b.rules[id].name := by
  unfold Grammar.ruleName
  rw [← Array.getElem?_toList, rules_of_build h, List.getElem?_map, List.getElem?_eq_getElem hid]
  rfl

theorem name_resolve (h : b.build = .ok g) {rule : RuleDraft} {alternative : List String}
    {name : String} (hr : rule ∈ b.rules) (ha : alternative ∈ rule.alternatives)
    (hn : name ∈ alternative) : g.name (b.resolve b.terminalTexts name) = name := by
  unfold resolve
  cases hi : b.rules.findIdx? (·.name == name) with
  | some id =>
    obtain ⟨hlt, heq, -⟩ := List.findIdx?_eq_some_iff_getElem.mp hi
    rw [Grammar.name, ruleName_of_build h hlt]
    exact beq_iff_eq.mp heq
  | none =>
    have hrule : b.hasRule name = false := by
      simpa only [hasRule, List.any_eq_false, List.findIdx?_eq_none_iff, Bool.not_eq_true] using hi
    have hget : b.terminalTexts[b.terminalTexts.idxOf name]? = some name :=
      List.getElem?_idxOf (mem_terminalTexts hr ha hn hrule)
    rw [← texts_terminals h, List.getElem?_map, Option.map_eq_some_iff] at hget
    obtain ⟨t, ht, hname⟩ := hget
    rw [Array.getElem?_toList, texts_terminals h] at ht
    simpa only [Grammar.name, ht] using hname

theorem namedAlternatives_resolveRule (h : b.build = .ok g) {rule : RuleDraft}
    (hr : rule ∈ b.rules) :
    g.namedAlternatives (b.resolveRule b.terminalTexts rule) = rule.alternatives := by
  rw [Grammar.namedAlternatives, resolveRule, List.map_map]
  refine (List.map_congr_left fun alternative ha ↦ ?_).trans (List.map_id _)
  rw [Function.comp_apply, List.map_map]
  exact (List.map_congr_left fun name hn ↦ name_resolve h hr ha hn).trans (List.map_id _)

theorem rules_toBuilder (h : b.build = .ok g) : g.toBuilder.rules = b.rules := by
  rw [Grammar.toBuilder, rules_of_build h, List.map_map]
  refine (List.map_congr_left fun rule hr ↦ ?_).trans (List.map_id _)
  rw [Function.comp_apply, namedAlternatives_resolveRule h hr]
  rfl

theorem validate_of_build (h : b.build = .ok g) :
    g.validate g.allowLeftRecursion = .ok (g.warnings.filter (!·.isAmbiguous)) := by
  obtain ⟨entryPoint, terminals, warnings, -, -, -, hv, rfl⟩ := build_eq_ok_iff.mp h
  have ha : (b.draft entryPoint terminals).warnings.filter (!·.isAmbiguous) = [] := by
    rw [List.filter_eq_nil_iff]
    intro warning hw
    obtain ⟨text, -, rfl⟩ := List.mem_map.mp hw
    exact Bool.false_ne_true
  have hw : warnings.filter (!·.isAmbiguous) = warnings := by
    rw [List.filter_eq_self]
    intro warning hw
    rw [Grammar.isAmbiguous_of_validate hv hw]
    rfl
  rw [Grammar.validate_warnings, List.filter_append, ha, hw, List.nil_append]
  exact hv

theorem terminalTexts_congr (hr : b'.rules = b.rules) : b'.terminalTexts = b.terminalTexts := by
  have hn : b'.hasRule = b.hasRule := by
    funext name
    rw [hasRule, hr, hasRule]
  rw [terminalTexts, hr, hn, terminalTexts]

theorem resolveRule_congr (hr : b'.rules = b.rules) : b'.resolveRule = b.resolveRule := by
  have hn : b'.resolve = b.resolve := by
    funext texts name
    rw [resolve, hr, resolve]
  funext texts rule
  rw [resolveRule, hn, resolveRule]

/--
What a builder shares with a grammar if it is an export of it. A literal may have a tag or not, as
the policy takes all texts without one for literals.
-/
structure Exports (b : GrammarBuilder) (g : Grammar) : Prop where
  rules : b.rules = g.toBuilder.rules
  entryPoint : b.entryPoint = some (g.ruleName g.entryPoint)
  policy : b.policy = .literal
  patterns : b.patterns = (g.terminals.toList.filter (·.isPattern)).map (·.text)
  literals : ∀ text ∈ b.literals, ∃ t ∈ g.terminals.toList, t.isPattern = false ∧ t.text = text
  endMarker : b.endMarker = g.endMarker
  allowLeftRecursion : b.allowLeftRecursion = g.allowLeftRecursion

namespace Exports

theorem rules_eq (hb : b'.Exports g) (h : b.build = .ok g) : b'.rules = b.rules :=
  hb.rules.trans (rules_toBuilder h)

theorem mem_patterns (hb : b'.Exports g) :
    text ∈ b'.patterns ↔ ∃ t ∈ g.terminals.toList, t.isPattern = true ∧ t.text = text := by
  simp only [hb.patterns, List.mem_map, List.mem_filter, and_assoc]

theorem infersPattern (hb : b'.Exports g) (text : String) : b'.infersPattern text = false := by
  rw [GrammarBuilder.infersPattern, hb.policy]
  rfl

theorem classify (hb : b'.Exports g) (h : b.build = .ok g) (ht : t ∈ g.terminals.toList) :
    b'.classify t.text = .ok t := by
  rw [GrammarBuilder.classify, hb.infersPattern, Bool.or_false]
  cases t with
  | pattern p =>
    have hm : (Terminal.pattern p).text ∈ b'.patterns := hb.mem_patterns.mpr ⟨_, ht, rfl, rfl⟩
    rw [if_pos (List.contains_iff_mem.mpr hm), classify_eq_ok_pattern (classify_text h ht)]
    rfl
  | literal text =>
    -- The tags name the patterns of `g` only, and none of these has the text of a literal.
    have hm : (Terminal.literal text).text ∉ b'.patterns := by
      intro hm
      obtain ⟨t, ht', hp, heq⟩ := hb.mem_patterns.mp hm
      cases eq_of_text_eq h ht' ht heq
      cases hp
    rw [if_neg (mt List.contains_iff_mem.mp hm)]
    rfl

theorem entryPoint? (hb : b'.Exports g) (h : b.build = .ok g) :
    b'.entryPoint? = .ok g.entryPoint := by
  have hr := hb.rules_eq h
  obtain ⟨entryPoint, terminals, warnings, he, -, -, -, hg⟩ := build_eq_ok_iff.mp h
  have hid : g.entryPoint = entryPoint := by rw [hg]; rfl
  obtain ⟨⟨name, -, hi⟩, hne, -, -⟩ := entryPoint?_eq_ok_iff.mp he
  obtain ⟨hlt, heq, -⟩ := List.findIdx?_eq_some_iff_getElem.mp hi
  rw [entryPoint?_eq_ok_iff]
  -- What is left is that no pattern names a rule, and that none is tagged as a literal, too.
  refine ⟨⟨_, hb.entryPoint, ?_⟩, hr ▸ hne, ?_, ?_⟩
  · rw [hid, ruleName_of_build h hlt, beq_iff_eq.mp heq, hr, hi]
  · rw [List.find?_eq_none]
    intro pattern hm
    obtain ⟨t, ht, -, rfl⟩ := hb.mem_patterns.mp hm
    have hn := hasRule_text h ht
    rw [hasRule, hr, ← hasRule, hn]
    exact Bool.false_ne_true
  · rw [List.find?_eq_none]
    intro pattern hm hl
    obtain ⟨t, ht, hp, rfl⟩ := hb.mem_patterns.mp hm
    obtain ⟨t', ht', hp', heq'⟩ := hb.literals _ (List.contains_iff_mem.mp hl)
    cases eq_of_text_eq h ht' ht heq'
    exact Bool.false_ne_true (hp'.symm.trans hp)

theorem compilePatterns (hb : b'.Exports g) (h : b.build = .ok g) :
    (b'.patterns.forM fun pattern ↦ (compilePattern pattern).map fun _ ↦ ()) = .ok () := by
  rw [forM_eq_ok_iff]
  intro pattern hm
  obtain ⟨t, ht, hp, rfl⟩ := hb.mem_patterns.mp hm
  cases t with
  | literal text => cases hp
  | pattern p =>
    rw [classify_eq_ok_pattern (classify_text h ht)]
    rfl

theorem draft (hb : b'.Exports g) (h : b.build = .ok g) :
    b'.draft g.entryPoint g.terminals.toList = { g with warnings := [] } := by
  have hr := hb.rules_eq h
  have hrules : g.rules = (b.rules.map (b.resolveRule b.terminalTexts)).toArray := by
    rw [← rules_of_build h]
  have hw : b'.terminalTexts.filter b'.infersPattern = [] :=
    List.filter_eq_nil_iff.mpr fun text _ ↦ by rw [hb.infersPattern]; exact Bool.false_ne_true
  rw [GrammarBuilder.draft, hw, hr, resolveRule_congr hr, terminalTexts_congr hr, ← hrules,
    hb.endMarker, hb.allowLeftRecursion]
  rfl

theorem build (hb : b'.Exports g) (h : b.build = .ok g) :
    b'.build = .ok { g with warnings := g.warnings.filter (!·.isAmbiguous) } := by
  have hr := hb.rules_eq h
  have ht : b'.terminalTexts.mapM b'.classify = .ok g.terminals.toList := by
    rw [mapM_eq_ok_iff, terminalTexts_congr hr, ← texts_terminals h, List.forall₂_map_left_iff,
      List.forall₂_same]
    exact fun t ht ↦ hb.classify h ht
  refine build_eq_ok_iff.mpr ⟨_, _, g.warnings.filter (!·.isAmbiguous), hb.entryPoint? h,
    hb.compilePatterns h, ht, ?_, ?_⟩
  · rw [hb.draft h, Grammar.validate_warnings, hb.allowLeftRecursion]
    exact validate_of_build h
  · rw [hb.draft h]
    rfl

end Exports

theorem exports_toBuilder (g : Grammar) : g.toBuilder.Exports g where
  rules := rfl
  entryPoint := rfl
  policy := rfl
  patterns := rfl
  literals text h := by
    obtain ⟨t, ht, rfl⟩ := List.mem_map.mp h
    obtain ⟨ht, hp⟩ := List.mem_filter.mp ht
    exact ⟨t, ht, (Bool.not_eq_true' _).mp hp, rfl⟩
  endMarker := rfl
  allowLeftRecursion := rfl

theorem Made.toBuilder_toTable (hb : b.Made) (h : b.build = .ok g) :
    g.toTable.toBuilder = { g.toBuilder with literals := [] } := by
  have hn : (g.toBuilder.rules.map (·.name)).Nodup := rules_toBuilder h ▸ hb.nodup_names
  exact foldl_withRule_eq (b := { g.toBuilder with rules := [], literals := [] }) hn

theorem Made.exports_toTable (hb : b.Made) (h : b.build = .ok g) :
    g.toTable.toBuilder.Exports g := by
  rw [hb.toBuilder_toTable h]
  exact { exports_toBuilder g with literals := nofun }

theorem Made.toBuilder (hb : b.Made) (h : b.build = .ok g) : g.toBuilder.Made := by
  have ht := g.toTable.made_toBuilder.literals_append g.toBuilder.literals
  rwa [hb.toBuilder_toTable h] at ht

end GrammarBuilder

/--
A grammar that is built can be built again from its builder, and from the text of its table. Both
ways lead to one grammar, which differs only in the warnings about terminals and so does the same
on all tokens.
-/
theorem rebuild_same {b : GrammarBuilder} {g : Grammar} (hb : b.Made) (h : b.build = .ok g) :
    ∃ g' : Grammar, g.toBuilder.build = .ok g' ∧
      (GrammarTable.ofJson g.toTable.toJson = .ok g.toTable ∧ g.toTable.build = .ok g') ∧
      g'.rules = g.rules ∧ g'.terminals = g.terminals ∧ g'.entryPoint = g.entryPoint ∧
      g'.endMarker = g.endMarker ∧ g'.allowLeftRecursion = g.allowLeftRecursion ∧
      g'.toTable = g.toTable ∧ g'.warnings = g.warnings.filter (!·.isAmbiguous) ∧
      ∀ tokens start limits clock patience,
        g'.parse? tokens start limits clock patience =
          g.parse? tokens start limits clock patience ∧
        (limits.maxSteps.isSome → (g.parse? tokens start limits clock patience).isSome) :=
  ⟨{ g with warnings := g.warnings.filter (!·.isAmbiguous) },
    (GrammarBuilder.exports_toBuilder g).build h,
    ⟨g.toTable.ofJson_toJson, (hb.exports_toTable h).build h⟩,
    rfl, rfl, rfl, rfl, rfl, rfl, rfl, fun tokens start limits clock patience ↦
      ⟨g.parse?_warnings _ tokens start limits clock patience,
        fun hl ↦ g.isSome_parse? tokens start hl clock patience⟩⟩

def GrammarBuilder.dots : GrammarBuilder :=
  (((GrammarBuilder.withEntryPoint {} "S").withRule "S" [["a.", "b."]]).withPolicy
    .inferred).withLiteral "b."

def Grammar.dots : Grammar where
  rules := #[⟨"S", [[.terminal 0, .terminal 1]]⟩]
  terminals := #[.pattern ⟨"a.", .seq (.look .textStart (.property .word)) (.seq
    (.seq (.set (.range 'a' 'a')) (.set (Regex.CharSet.range '\n' '\n').compl))
    (.look .textEnd (.property .word)))⟩, .literal "b."]
  entryPoint := 0
  endMarker := defaultEndMarker
  allowLeftRecursion := false
  warnings := [.ambiguousTerminal "a."]

theorem build_dots : GrammarBuilder.dots.build = .ok .dots := by cbv

theorem made_dots : GrammarBuilder.dots.Made :=
  .withLiteral (.withPolicy (.withRule (.withEntryPoint .empty _) _ _) _) _

/-- In the export the pattern has a tag, the literal keeps its kind, and nothing is ambiguous. -/
theorem rebuild_same_dots :
    GrammarBuilder.dots.Made ∧ GrammarBuilder.dots.build = .ok .dots ∧
      ∃ g' : Grammar, Grammar.dots.toBuilder.build = .ok g' ∧
        Grammar.dots.toTable.build = .ok g' ∧ g'.terminals = Grammar.dots.terminals ∧
        g'.warnings = [] ∧
        g'.parse? ["ab", "b."] none {} (fun _ ↦ 0) 0 =
          Grammar.dots.parse? ["ab", "b."] none {} (fun _ ↦ 0) 0 ∧
        (Grammar.dots.parse? ["ab", "b."] none {} (fun _ ↦ 0) 0).isSome := by
  obtain ⟨g', hb, ⟨-, ht⟩, -, hterminals, -, -, -, -, hw, halike⟩ :=
    rebuild_same made_dots build_dots
  obtain ⟨heq, hsome⟩ := halike ["ab", "b."] none {} (fun _ ↦ 0) 0
  exact ⟨made_dots, build_dots, g', hb, ht, hterminals, hw, heq, hsome rfl⟩

end TopDown
