import TopDown.Proofs.Rebuild

namespace TopDown

section

variable {α : Type} [BEq α] [LawfulBEq α] {a c : α} {xs : List α}

theorem idxOf?_of_mem (h : a ∈ xs) : xs.idxOf? a = some (xs.idxOf a) := by
  cases ho : xs.idxOf? a with
  | none => exact absurd h (List.idxOf?_eq_none_iff.mp ho)
  | some i => rw [List.idxOf_eq_getD_idxOf?, ho, Option.getD_some]

theorem idxOf_lt_of_filter {p : α → Bool} (ha : p a = true) (hc : p c = true)
    (h : (xs.filter p).idxOf a < (xs.filter p).idxOf c) : xs.idxOf a < xs.idxOf c := by
  induction xs with
  | nil => exact absurd h (Nat.lt_irrefl 0)
  | cons x xs ih =>
    by_cases hx : p x
    · simp only [List.filter_cons_of_pos hx, List.idxOf_cons] at h ⊢
      grind
    · have hne : x ≠ a ∧ x ≠ c := ⟨fun he ↦ hx (he ▸ ha), fun he ↦ hx (he ▸ hc)⟩
      rw [List.filter_cons_of_neg hx] at h
      rw [List.idxOf_cons_ne xs hne.1, List.idxOf_cons_ne xs hne.2]
      exact Nat.succ_lt_succ (ih h)

theorem pairwise_eraseDups (xs : List α) :
    xs.eraseDups.Pairwise (fun a c ↦ xs.idxOf a < xs.idxOf c) := by
  induction hn : xs.length using Nat.strong_induction_on generalizing xs with
  | h n ih =>
  cases xs with
  | nil => exact .nil
  | cons x xs =>
    have hne {y : α} (hy : y ∈ (xs.filter fun b ↦ !b == x).eraseDups) : y ≠ x := by
      simpa using (List.mem_filter.mp (List.mem_eraseDups.mp hy)).2
    rw [List.eraseDups_cons, List.pairwise_cons]
    constructor
    · intro y hy
      rw [List.idxOf_cons_self, List.idxOf_cons_ne xs (hne hy).symm]
      exact Nat.succ_pos _
    · refine (ih _ ?_ _ rfl).imp_of_mem fun {y z} hy hz h ↦ ?_
      · have hle := List.length_filter_le (fun b ↦ !b == x) xs
        rw [List.length_cons] at hn
        omega
      · rw [List.idxOf_cons_ne xs (hne hy).symm, List.idxOf_cons_ne xs (hne hz).symm]
        refine Nat.succ_lt_succ (idxOf_lt_of_filter ?_ ?_ h)
        · simpa using hne hy
        · simpa using hne hz

theorem nodup_eraseDups (xs : List α) : xs.eraseDups.Nodup :=
  (pairwise_eraseDups xs).imp fun h he ↦ (he ▸ h).false

omit [LawfulBEq α] in
theorem findIdx?_eq_idxOf?_map {β : Type} (xs : Array β) (f : β → α) (a : α) :
    xs.findIdx? (f · == a) = (xs.toList.map f).idxOf? a := by
  cases xs with
  | mk xs =>
    rw [List.findIdx?_toArray, List.idxOf?, List.findIdx?_map]
    rfl

end

namespace Grammar

variable {g : Grammar} {name : String} {x : Symbol}

def ruleNames (g : Grammar) : List String :=
  g.rules.toList.map (·.name)

def terminalTexts (g : Grammar) : List String :=
  g.terminals.toList.map (·.text)

theorem name_nonTerminal (id : Nat) :
    g.name (.nonTerminal id) = (g.ruleNames[id]?).getD "" := by
  rw [ruleNames, List.getElem?_map, Array.getElem?_toList, name, ruleName]
  cases g.rules[id]? <;> rfl

theorem name_terminal (id : Nat) : g.name (.terminal id) = (g.terminalTexts[id]?).getD "" := by
  rw [terminalTexts, List.getElem?_map, Array.getElem?_toList, Grammar.name]
  cases g.terminals[id]? <;> rfl

theorem symbol?_eq :
    g.symbol? name =
      if name ∈ g.ruleNames then some (.nonTerminal (g.ruleNames.idxOf name))
      else if name ∈ g.terminalTexts then some (.terminal (g.terminalTexts.idxOf name))
      else none := by
  rw [symbol?, nonTerminal?, findIdx?_eq_idxOf?_map, findIdx?_eq_idxOf?_map, ← ruleNames,
    ← terminalTexts]
  split_ifs with hr hterm
  · rw [idxOf?_of_mem hr]
  · rw [List.idxOf?_eq_none_iff.mpr hr, idxOf?_of_mem hterm]
    rfl
  · rw [List.idxOf?_eq_none_iff.mpr hr, List.idxOf?_eq_none_iff.mpr hterm]
    rfl

theorem isSome_symbol?_iff :
    (g.symbol? name).isSome ↔ name ∈ g.ruleNames ∨ name ∈ g.terminalTexts := by
  rw [symbol?_eq]
  split_ifs <;> simp [*]

theorem name_of_symbol? (h : g.symbol? name = some x) : g.name x = name := by
  rw [symbol?_eq] at h
  split_ifs at h with hr ht
  · cases h
    rw [name_nonTerminal, List.getElem?_idxOf hr, Option.getD_some]
  · cases h
    rw [name_terminal, List.getElem?_idxOf ht, Option.getD_some]

theorem isNonTerminal_of_symbol? (h : g.symbol? name = some x) :
    x.isNonTerminal = true ↔ name ∈ g.ruleNames := by
  rw [symbol?_eq] at h
  split_ifs at h with hr <;> cases h <;> simp [hr, Symbol.isNonTerminal]

theorem symbol?_name (hr : g.ruleNames.Nodup) (ht : g.terminalTexts.Nodup)
    (hd : ∀ text ∈ g.terminalTexts, text ∉ g.ruleNames) (hx : g.Has x) :
    g.symbol? (g.name x) = some x := by
  cases x with
  | nonTerminal id =>
    have hid : id < g.ruleNames.length := by simpa [ruleNames, Grammar.Has] using hx
    rw [name_nonTerminal, List.getElem?_eq_getElem hid, Option.getD_some, symbol?_eq,
      if_pos (List.getElem_mem hid), hr.idxOf_getElem]
  | terminal id =>
    have hid : id < g.terminalTexts.length := by simpa [terminalTexts, Grammar.Has] using hx
    have hm := List.getElem_mem hid
    rw [name_terminal, List.getElem?_eq_getElem hid, Option.getD_some, symbol?_eq,
      if_neg (hd _ hm), if_pos hm, ht.idxOf_getElem]
  | endMarker => cases hx

end Grammar

namespace GrammarBuilder

variable {b : GrammarBuilder} {g : Grammar} {text : String} {t : Terminal}

def ruleNames (b : GrammarBuilder) : List String :=
  b.rules.map (·.name)

def texts (b : GrammarBuilder) : List String :=
  b.rules.flatMap (·.alternatives.flatten)

theorem terminalTexts_eq (b : GrammarBuilder) :
    b.terminalTexts = (b.texts.filter (!b.hasRule ·)).eraseDups := by
  rw [terminalTexts, texts, List.filter_flatMap]

theorem mem_terminalTexts_iff : text ∈ b.terminalTexts ↔ text ∈ b.texts ∧ text ∉ b.ruleNames := by
  rw [terminalTexts_eq, List.mem_eraseDups, List.mem_filter, Bool.not_eq_true',
    Bool.eq_false_iff, ne_eq, hasRule_eq_true_iff]
  rfl

theorem pairwise_terminalTexts (b : GrammarBuilder) :
    b.terminalTexts.Pairwise (fun text text' ↦ b.texts.idxOf text < b.texts.idxOf text') := by
  rw [terminalTexts_eq]
  refine (pairwise_eraseDups _).imp_of_mem fun ha hc h ↦ idxOf_lt_of_filter ?_ ?_ h
  · exact (List.mem_filter.mp (List.mem_eraseDups.mp ha)).2
  · exact (List.mem_filter.mp (List.mem_eraseDups.mp hc)).2

theorem nodup_terminalTexts (b : GrammarBuilder) : b.terminalTexts.Nodup := by
  rw [terminalTexts_eq]
  exact nodup_eraseDups _

theorem ruleNames_of_build (h : b.build = .ok g) : g.ruleNames = b.ruleNames := by
  rw [Grammar.ruleNames, rules_of_build h, List.map_map]
  rfl

theorem terminalTexts_of_build (h : b.build = .ok g) : g.terminalTexts = b.terminalTexts :=
  texts_terminals h

theorem map_nonTerminals_of_build (h : b.build = .ok g) :
    g.nonTerminals.map (fun id ↦
      (⟨g.ruleName id, (g.alternativesOf id).map (·.map g.name)⟩ : RuleDraft)) = b.rules := by
  rw [← rules_toBuilder h, Grammar.toBuilder]
  refine List.ext_getElem (by simp [Grammar.nonTerminals]) fun id hid hid' ↦ ?_
  have hlt : id < g.rules.size := by simpa using hid'
  simp [Grammar.nonTerminals, Grammar.ruleName, Grammar.alternativesOf, Grammar.namedAlternatives,
    hlt]

theorem isPattern_of_classify (h : b.classify text = .ok t) :
    t.isPattern = true ↔ text ∈ b.patterns ∨ b.infersPattern text = true := by
  rw [← List.contains_iff_mem, ← Bool.or_eq_true]
  unfold classify at h
  split at h
  · next hc =>
    cases hp : compilePattern text <;> rw [hp] at h <;> cases h
    simp only [hc, Terminal.isPattern]
  · next hc =>
    cases h
    simp only [hc, Terminal.isPattern]

theorem infersPattern_iff : b.infersPattern text = true ↔
    b.policy = .inferred ∧ text ∉ b.literals ∧ text ∉ b.patterns ∧
      looksLikePattern text = true := by
  simp [infersPattern, and_assoc]

theorem filter_isAmbiguous_of_build (h : b.build = .ok g) :
    g.warnings.filter (·.isAmbiguous) =
      (b.terminalTexts.filter b.infersPattern).map .ambiguousTerminal := by
  obtain ⟨entryPoint, terminals, warnings, -, -, -, hv, rfl⟩ := build_eq_ok_iff.mp h
  have hw : warnings.filter (·.isAmbiguous) = [] := by
    rw [List.filter_eq_nil_iff]
    intro warning hm
    rw [Grammar.isAmbiguous_of_validate hv hm]
    exact Bool.false_ne_true
  have ha : (b.draft entryPoint terminals).warnings.filter (·.isAmbiguous) =
      (b.draft entryPoint terminals).warnings := by
    rw [List.filter_eq_self]
    intro warning hm
    obtain ⟨text, -, rfl⟩ := List.mem_map.mp hm
    rfl
  rw [List.filter_append, ha, hw, List.append_nil]
  rfl

/-- What a grammar says about the builder that it was built from. -/
structure Represents (b : GrammarBuilder) (g : Grammar) : Prop where
  nodup_ruleNames : b.ruleNames.Nodup
  nonTerminals : g.nonTerminals.map g.ruleName = b.ruleNames
  /-- Read back symbol by symbol, the rules are those of the builder. -/
  rules : g.nonTerminals.map (fun id ↦
    (⟨g.ruleName id, (g.alternativesOf id).map (·.map g.name)⟩ : RuleDraft)) = b.rules
  endMarker_notMem : ∀ id, ∀ alternative ∈ g.alternativesOf id, .endMarker ∉ alternative
  isSome_symbol?_iff : ∀ name, (g.symbol? name).isSome ↔ name ∈ b.ruleNames ∨ name ∈ b.texts
  name_of_symbol? : ∀ name x, g.symbol? name = some x → g.name x = name
  symbol?_name : ∀ x, g.Has x → g.symbol? (g.name x) = some x
  isNonTerminal_iff : ∀ name x, g.symbol? name = some x →
    (x.isNonTerminal = true ↔ name ∈ b.ruleNames)
  mem_terminalTexts_iff : ∀ text,
    text ∈ g.terminalTexts ↔ text ∈ b.texts ∧ text ∉ b.ruleNames
  terminalTexts_pairwise :
    g.terminalTexts.Pairwise (fun text text' ↦ b.texts.idxOf text < b.texts.idxOf text')
  isPattern_iff : ∀ t ∈ g.terminals.toList, t.isPattern = true ↔
    t.text ∈ b.patterns ∨
      t.text ∉ b.literals ∧ b.policy = .inferred ∧ looksLikePattern t.text = true
  warnings : g.warnings.filter (·.isAmbiguous) =
    (g.terminals.toList.filter fun t ↦ t.isPattern && !b.patterns.contains t.text).map
      fun t ↦ .ambiguousTerminal t.text

theorem isPattern_iff_of_build (h : b.build = .ok g) (ht : t ∈ g.terminals.toList) :
    t.isPattern = true ↔ t.text ∈ b.patterns ∨ b.infersPattern t.text = true :=
  isPattern_of_classify (classify_text h ht)

theorem warnings_of_build (h : b.build = .ok g) : g.warnings.filter (·.isAmbiguous) =
    (g.terminals.toList.filter fun t ↦ t.isPattern && !b.patterns.contains t.text).map
      fun t ↦ .ambiguousTerminal t.text := by
  rw [filter_isAmbiguous_of_build h, ← texts_terminals h, List.filter_map, List.map_map]
  refine congrArg _ (List.filter_congr fun t ht ↦ ?_)
  rw [Bool.eq_iff_iff, Function.comp_apply, Bool.and_eq_true, isPattern_iff_of_build h ht,
    Bool.not_eq_true', Bool.eq_false_iff, ne_eq, List.contains_iff_mem]
  have hp : b.infersPattern t.text = true → t.text ∉ b.patterns :=
    fun hi ↦ (infersPattern_iff.mp hi).2.2.1
  tauto

end GrammarBuilder

open TopDown.GrammarBuilder

/-- A grammar that is built has the rules, the symbols and the terminals of its builder. -/
theorem represents_of_build {b : GrammarBuilder} {g : Grammar} (hb : b.Made)
    (h : b.build = .ok g) : b.Represents g := by
  have hr := ruleNames_of_build h
  have ht := terminalTexts_of_build h
  have hrules := map_nonTerminals_of_build h
  exact {
    nodup_ruleNames := hb.nodup_names
    nonTerminals := by
      rw [GrammarBuilder.ruleNames, ← hrules, List.map_map]
      rfl
    rules := hrules
    endMarker_notMem := fun id alternative ha hm ↦
      (build_wellFormed h).has_of_mem id alternative ha _ hm
    isSome_symbol?_iff := fun name ↦ by
      rw [Grammar.isSome_symbol?_iff, hr, ht, mem_terminalTexts_iff]
      tauto
    name_of_symbol? := fun _ _ ↦ Grammar.name_of_symbol?
    symbol?_name := fun x ↦ by
      refine Grammar.symbol?_name (hr ▸ hb.nodup_names) (ht ▸ b.nodup_terminalTexts) ?_
      rw [hr, ht]
      exact fun text hm ↦ (mem_terminalTexts_iff.mp hm).2
    isNonTerminal_iff := fun name x hx ↦ hr ▸ Grammar.isNonTerminal_of_symbol? hx
    mem_terminalTexts_iff := fun text ↦ ht ▸ GrammarBuilder.mem_terminalTexts_iff
    terminalTexts_pairwise := ht ▸ b.pairwise_terminalTexts
    isPattern_iff := fun t hm ↦ by
      rw [isPattern_iff_of_build h hm, infersPattern_iff]
      tauto
    warnings := warnings_of_build h }

def GrammarBuilder.edited : GrammarBuilder :=
  (GrammarBuilder.withPolicy {
    rules := [⟨"S", [["A", "x"], ["B", "a.", "B"]]⟩, ⟨"A", [["a.", "b."]]⟩]
    entryPoint := some "S" } .inferred).withLiteral "b."

def Grammar.edited : Grammar where
  rules := #[⟨"S", [[.nonTerminal 1, .terminal 0], [.terminal 1, .terminal 2, .terminal 1]]⟩,
    ⟨"A", [[.terminal 2, .terminal 3]]⟩]
  terminals := #[.literal "x", .literal "B",
    .pattern ⟨"a.", .seq (.look .textStart (.property .word))
      (.seq (.seq (.set (.range 'a' 'a')) (.set (Regex.CharSet.range '\n' '\n').compl))
      (.look .textEnd (.property .word)))⟩,
    .literal "b."]
  entryPoint := 0
  endMarker := defaultEndMarker
  allowLeftRecursion := false
  warnings := [.ambiguousTerminal "a."]

theorem build_edited : GrammarBuilder.edited.build = .ok .edited := by decide +kernel

theorem made_edited : GrammarBuilder.edited.Made := by
  have h := (((Made.empty.withEntryPoint "S").withRule "S" [["A", "x"]]).withRule "B"
    [["y"]]).withRule "S" [["B", "a.", "B"]]
  have hs : Made {
      rules := [⟨"S", [["A", "x"], ["B", "a.", "B"]]⟩], entryPoint := some "S" } :=
    h.removeRule (show GrammarBuilder.removeRule _ "B" = _ by decide +kernel)
  have ha := hs.addRule (show GrammarBuilder.addRule _ "A" [["a.", "b."]] = .ok {
      rules := [⟨"S", [["A", "x"], ["B", "a.", "B"]]⟩, ⟨"A", [["a.", "b."]]⟩]
      entryPoint := some "S" } by decide +kernel)
  exact .withLiteral (.withPolicy ha _) _

/-- The terminals in order, of which only the one without a tag is a pattern. -/
theorem represents_of_build_edited :
    GrammarBuilder.edited.Made ∧ GrammarBuilder.edited.build = .ok .edited ∧
      GrammarBuilder.edited.Represents .edited ∧
      Grammar.edited.terminalTexts = ["x", "B", "a.", "b."] ∧
      Grammar.edited.symbol? "B" = some (.terminal 1) :=
  ⟨made_edited, build_edited, represents_of_build made_edited build_edited, by decide +kernel,
    (represents_of_build made_edited build_edited).symbol?_name (.terminal 1) (by decide)⟩

end TopDown
