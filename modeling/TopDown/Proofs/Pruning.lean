import TopDown.Proofs.ParserLoop
import TopDown.Proofs.Reachability
import TopDown.Proofs.RuleInclusion

namespace TopDown

namespace GrammarBuilder

variable {b : GrammarBuilder} {g : Grammar} {names : List String} {name : String} {id : Nat}

def removeRules (b : GrammarBuilder) (names : List String) : Except GrammarError GrammarBuilder :=
  names.foldlM removeRule b

def without (b : GrammarBuilder) (names : List String) : GrammarBuilder :=
  { b with rules := b.rules.filter (·.name ∉ names) }

theorem mem_rules_without {rule : RuleDraft} :
    rule ∈ (b.without names).rules ↔ rule ∈ b.rules ∧ rule.name ∉ names := by
  rw [without, List.mem_filter, decide_eq_true_iff]

theorem ruleNames_without (b : GrammarBuilder) (names : List String) :
    (b.without names).ruleNames = b.ruleNames.filter (· ∉ names) := by
  rw [ruleNames, ruleNames, List.filter_map]
  rfl

theorem mem_ruleNames_without :
    name ∈ (b.without names).ruleNames ↔ name ∈ b.ruleNames ∧ name ∉ names := by
  rw [ruleNames_without, List.mem_filter, decide_eq_true_iff]

theorem without_nil (b : GrammarBuilder) : b.without [] = b := by
  simp [without]

theorem without_cons (b : GrammarBuilder) (name : String) (names : List String) :
    b.without (name :: names) = (b.without [name]).without names := by
  simp [without, List.filter_filter, Bool.and_comm]

theorem removeRule_of_mem (hm : name ∈ b.ruleNames) :
    b.removeRule name = .ok (b.without [name]) := by
  rw [removeRule, if_pos (hasRule_eq_true_iff.mpr hm), without]
  refine congrArg (fun rules ↦ Except.ok { b with rules }) (List.filter_congr fun rule _ ↦ ?_)
  rw [Bool.eq_iff_iff, bne_iff_ne, decide_eq_true_iff, List.mem_singleton]

theorem removeRules_eq (hn : names.Nodup) (hm : names ⊆ b.ruleNames) :
    b.removeRules names = .ok (b.without names) := by
  induction names generalizing b with
  | nil =>
    rw [without_nil]
    rfl
  | cons name names ih =>
    obtain ⟨hnot, hn⟩ := List.nodup_cons.mp hn
    obtain ⟨hname, hm⟩ := List.cons_subset.mp hm
    have hrest : names ⊆ (b.without [name]).ruleNames := by
      intro other ho
      rw [mem_ruleNames_without, List.mem_singleton]
      exact ⟨hm ho, fun he ↦ hnot (he ▸ ho)⟩
    rw [removeRules, List.foldlM_cons, removeRule_of_mem hname, without_cons b name names]
    exact ih hn hrest

theorem ruleNames_eq_of_build (h : b.build = .ok g) :
    b.ruleNames = g.nonTerminals.map g.ruleName := by
  rw [ruleNames, ← map_nonTerminals_of_build h, List.map_map]
  rfl

theorem ruleName_inj_of_build (hb : b.ruleNames.Nodup) (h : b.build = .ok g) {id' : Nat}
    (hid : id < g.rules.size) (hid' : id' < g.rules.size) (he : g.ruleName id = g.ruleName id') :
    id = id' :=
  List.inj_on_of_nodup_map (ruleNames_eq_of_build h ▸ hb) (List.mem_range.mpr hid)
    (List.mem_range.mpr hid') he

theorem exists_id_of_mem_rules (h : b.build = .ok g) {rule : RuleDraft} (hr : rule ∈ b.rules) :
    ∃ id < g.rules.size, (⟨g.ruleName id, (g.alternativesOf id).map (·.map g.name)⟩ : RuleDraft) =
      rule := by
  rw [← map_nonTerminals_of_build h] at hr
  obtain ⟨id, hid, he⟩ := List.mem_map.mp hr
  exact ⟨id, List.mem_range.mp hid, he⟩

theorem exists_nonTerminal_of_name (hb : b.ruleNames.Nodup) (h : b.build = .ok g) {x : Symbol}
    (hx : g.Has x) (hr : g.name x ∈ b.ruleNames) : ∃ id, x = .nonTerminal id := by
  have hsymbol : g.symbol? (g.name x) = some x := by
    refine Grammar.symbol?_name (ruleNames_of_build h ▸ hb)
      (terminalTexts_of_build h ▸ b.nodup_terminalTexts) ?_ hx
    rw [ruleNames_of_build h, terminalTexts_of_build h]
    exact fun text hm ↦ (mem_terminalTexts_iff.mp hm).2
  have hn := (Grammar.isNonTerminal_of_symbol? hsymbol).mpr (ruleNames_of_build h ▸ hr)
  cases x with
  | nonTerminal id => exact ⟨id, rfl⟩
  | terminal | endMarker => cases hn

theorem entryPoint_of_build (h : b.build = .ok g) :
    b.entryPoint = some (g.ruleName g.entryPoint) := by
  obtain ⟨id, terminals, warnings, he, -, -, -, hg⟩ := build_eq_ok_iff.mp h
  obtain ⟨⟨name, hname, hi⟩, -⟩ := entryPoint?_eq_ok_iff.mp he
  obtain ⟨hid, heq, -⟩ := List.findIdx?_eq_some_iff_getElem.mp hi
  have hentry : g.entryPoint = id := by
    rw [hg]
    rfl
  rw [hname, hentry, ruleName_of_build h hid, beq_iff_eq.mp heq]

/-- What the rules that occur refer to occurs, so they are left when all others are gone. -/
theorem within_without (hb : b.ruleNames.Nodup) (h : b.build = .ok g)
    (hn : ∀ name, name ∈ names ↔ name ∈ g.unreachableRules.map g.ruleName) :
    (b.without names).Within b := by
  have hg : g.WellFormed := build_wellFormed h
  have hnames (id : Nat) (hid : id < g.rules.size) : g.ruleName id ∉ names ↔ g.Occurs id := by
    rw [hn, List.mem_map, not_iff_comm]
    constructor
    · exact fun ho ↦ ⟨id, (Grammar.mem_unreachableRules_iff hg).mpr ⟨hid, ho⟩, rfl⟩
    · rintro ⟨id', hu, he⟩
      obtain ⟨hid', ho⟩ := (Grammar.mem_unreachableRules_iff hg).mp hu
      rwa [← ruleName_inj_of_build hb h hid' hid he]
  have hkept {id : Nat} (hid : id < g.rules.size) (ho : g.Occurs id) :
      g.ruleName id ∈ (b.without names).ruleNames := by
    rw [mem_ruleNames_without, ruleNames_eq_of_build h]
    exact ⟨List.mem_map_of_mem (List.mem_range.mpr hid), (hnames id hid).mpr ho⟩
  constructor
  case rules => exact fun _ hr ↦ (mem_rules_without.mp hr).1
  case nodup_names => exact hb.sublist (List.filter_sublist.map _)
  case nodup_names_of => exact hb
  -- The only field that is about reachability: a text that names a rule is reached with its rule.
  case closed =>
    intro text ht hr
    obtain ⟨rule, hrule, ht⟩ := List.mem_flatMap.mp ht
    obtain ⟨hrule, hout⟩ := mem_rules_without.mp hrule
    obtain ⟨id, hid, rfl⟩ := exists_id_of_mem_rules h hrule
    obtain ⟨alternative, ha, ht⟩ := List.mem_flatten.mp ht
    obtain ⟨symbols, hs, rfl⟩ := List.mem_map.mp ha
    obtain ⟨x, hx, rfl⟩ := List.mem_map.mp ht
    have hhas := hg.has_of_mem id symbols hs x hx
    obtain ⟨next, rfl⟩ := exists_nonTerminal_of_name hb h hhas hr
    exact hkept hhas (((hnames id hid).mp hout).of_mem hs hx)
  case entryPoint => rfl
  case mem_of_entryPoint =>
    intro name he _
    cases (entryPoint_of_build h).symm.trans he
    exact hkept hg.entryPoint_lt Grammar.occurs_entryPoint
  case mem_patterns_iff => exact fun _ ↦ .rfl
  case mem_literals_iff => exact fun _ ↦ .rfl
  case policy => rfl
  case endMarker => rfl
  case allowLeftRecursion => rfl

theorem exists_embeds_of_removeRules (hb : b.ruleNames.Nodup) (h : b.build = .ok g)
    (hp : names.Perm (g.unreachableRules.map g.ruleName)) :
    ∃ b' g', b.removeRules names = .ok b' ∧ b'.build = .ok g' ∧
      g'.nonTerminals.map g'.ruleName = (g.nonTerminals.map g.ruleName).filter (· ∉ names) ∧
      ∃ f : SymbolMap, f.Embeds g' g ∧ g.entryPoint = f.nonTerminal g'.entryPoint := by
  have hsub : (g.unreachableRules.map g.ruleName).Sublist b.ruleNames := by
    rw [ruleNames_eq_of_build h]
    exact List.filter_sublist.map _
  have hremove : b.removeRules names = .ok (b.without names) :=
    removeRules_eq (hp.nodup_iff.mpr (hb.sublist hsub)) fun _ hm ↦ hsub.subset (hp.mem_iff.mp hm)
  have hwithin : (b.without names).Within b := within_without hb h fun _ ↦ hp.mem_iff
  obtain ⟨g', hg'⟩ := hwithin.exists_build h
  refine ⟨_, g', hremove, hg', ?_, _, hwithin.embeds hg' h⟩
  rw [← ruleNames_eq_of_build hg', ruleNames_without, ruleNames_eq_of_build h]

end GrammarBuilder

/--
The rules that are reported as unreachable are, each once and in order, those that occur in no
sequence that derives from the entry point. They can be removed in any order, and parsing from the
entry point has the same outcome without them.
-/
theorem unreachable_exact_and_pruned_alike {b : GrammarBuilder} {g : Grammar} (hb : b.Made)
    (h : b.build = .ok g) :
    g.unreachableRules.Pairwise (· < ·) ∧
    (∀ id, id ∈ g.unreachableRules ↔ id < g.rules.size ∧ ¬ g.Occurs id) ∧
    ∀ names, names.Perm (g.unreachableRules.map g.ruleName) →
      ∃ b' g', g.toBuilder.removeRules names = .ok b' ∧ b'.build = .ok g' ∧
        g'.nonTerminals.map g'.ruleName = (g.nonTerminals.map g.ruleName).filter (· ∉ names) ∧
        ∀ (tokens : List String) (limits : Limits) (clock : Nat → Nat) (patience : Nat),
          (g'.parse? tokens none limits clock patience).map g'.outcome =
            (g.parse? tokens none limits clock patience).map g.outcome ∧
          (limits.maxSteps.isSome → (g.parse? tokens none limits clock patience).isSome) := by
  refine ⟨g.pairwise_unreachableRules,
    fun id ↦ Grammar.mem_unreachableRules_iff (GrammarBuilder.build_wellFormed h),
    fun names hp ↦ ?_⟩
  -- The exported builder builds `g` again, but for the warnings about terminals.
  have hexport := (GrammarBuilder.exports_toBuilder g).build h
  rw [← g.unreachableRules_warnings (g.warnings.filter (!·.isAmbiguous))] at hp
  obtain ⟨b', g', hremove, hg', hrules, f, hf, hentry⟩ :=
    GrammarBuilder.exists_embeds_of_removeRules (hb.toBuilder h).nodup_names hexport hp
  refine ⟨b', g', hremove, hg', hrules, fun tokens limits clock patience ↦ ⟨?_, fun hl ↦ ?_⟩⟩
  · have hrun := Grammar.outcome_parseStream? hf (TokenStream.ofTokens tokens g.endMarker)
      g'.entryPoint limits clock patience
    rw [← hentry] at hrun
    rw [← g.parse?_warnings (g.warnings.filter (!·.isAmbiguous))]
    unfold Grammar.parse?
    rw [← hf.endMarker]
    exact hrun.symm
  · exact g.isSome_parse? tokens none hl clock patience

def GrammarBuilder.twoSpare : GrammarBuilder :=
  ((((GrammarBuilder.withEntryPoint {} "S").withRule "U" [["V", "a"], ["T"]]).withRule "S"
    [["a", "T"], ["b"]]).withRule "V" [["d", "U"]]).withRule "T" [["c"], ["c", "S"]]

def Grammar.twoSpare : Grammar where
  rules := #[⟨"U", [[.nonTerminal 2, .terminal 0], [.nonTerminal 3]]⟩,
    ⟨"S", [[.terminal 0, .nonTerminal 3], [.terminal 1]]⟩,
    ⟨"V", [[.terminal 2, .nonTerminal 0]]⟩,
    ⟨"T", [[.terminal 3], [.terminal 3, .nonTerminal 1]]⟩]
  terminals := #[.literal "a", .literal "b", .literal "d", .literal "c"]
  entryPoint := 1
  endMarker := defaultEndMarker
  allowLeftRecursion := false
  warnings := [.unreachableRule "U", .unreachableRule "V"]

theorem build_twoSpare : GrammarBuilder.twoSpare.build = .ok .twoSpare := by decide +kernel

theorem made_twoSpare : GrammarBuilder.twoSpare.Made :=
  ((((GrammarBuilder.Made.empty.withEntryPoint "S").withRule "U" _).withRule "S" _).withRule "V"
    _).withRule "T" _

/-- The rules that go are the first and the third one, and the last one goes first. -/
theorem unreachable_exact_and_pruned_alike_twoSpare :
    GrammarBuilder.twoSpare.Made ∧ GrammarBuilder.twoSpare.build = .ok .twoSpare ∧
      ¬ Grammar.twoSpare.Occurs 0 ∧
      ∃ b' g', Grammar.twoSpare.toBuilder.removeRules ["V", "U"] = .ok b' ∧ b'.build = .ok g' ∧
        g'.nonTerminals.map g'.ruleName = ["S", "T"] ∧
        (g'.parse? ["a", "c", "b"] none {} (fun _ ↦ 0) 0).map g'.outcome =
          (Grammar.twoSpare.parse? ["a", "c", "b"] none {} (fun _ ↦ 0) 0).map
            Grammar.twoSpare.outcome ∧
        (Grammar.twoSpare.parse? ["a", "c", "b"] none {} (fun _ ↦ 0) 0).isSome := by
  obtain ⟨-, hmem, hprune⟩ := unreachable_exact_and_pruned_alike made_twoSpare build_twoSpare
  obtain ⟨b', g', hremove, hg', hrules, halike⟩ := hprune ["V", "U"] (by decide +kernel)
  obtain ⟨heq, hsome⟩ := halike ["a", "c", "b"] {} (fun _ ↦ 0) 0
  exact ⟨made_twoSpare, build_twoSpare, ((hmem 0).mp (by decide +kernel)).2, b', g', hremove, hg',
    hrules.trans (by decide +kernel), heq, hsome rfl⟩

end TopDown
