import TopDown.Proofs.Renaming
import TopDown.Proofs.SymbolTable

namespace TopDown

section

variable {α : Type} [BEq α] [LawfulBEq α] {xs ys : List α} {a : α} {i : Nat}

/-- The place in `ys` of the value with place `i` in `xs`; places past the end stay there. -/
def relocate (xs ys : List α) (i : Nat) : Nat :=
  match xs[i]? with
  | some a => ys.idxOf a
  | none => ys.length + i

theorem getElem?_relocate (h : xs ⊆ ys) (i : Nat) : ys[relocate xs ys i]? = xs[i]? := by
  unfold relocate
  cases hi : xs[i]? with
  | some a => exact List.getElem?_idxOf (h (List.mem_of_getElem? hi))
  | none => exact List.getElem?_eq_none (Nat.le_add_right _ _)

theorem relocate_injective (h : xs ⊆ ys) (hn : xs.Nodup) :
    (relocate xs ys).Injective := by
  intro i j hij
  have hget : xs[i]? = xs[j]? := by
    rw [← getElem?_relocate h i, hij, getElem?_relocate h j]
  by_cases hi : i < xs.length
  · exact (List.getElem?_inj hi hn).mp hget
  · have hnone : xs[i]? = none := List.getElem?_eq_none (Nat.not_lt.mp hi)
    unfold relocate at hij
    simp only [← hget, hnone] at hij
    exact Nat.add_left_cancel hij

theorem relocate_idxOf (ha : a ∈ xs) : relocate xs ys (xs.idxOf a) = ys.idxOf a := by
  rw [relocate, List.getElem?_idxOf ha]

theorem findIdx?_relocate {p : α → Bool} (h : xs ⊆ ys) (hn : ys.Nodup)
    (hp : ∀ a ∈ ys, ∀ c ∈ ys, p a = true → p c = true → a = c)
    (hx : ∀ a ∈ ys, p a = true → a ∈ xs) :
    ys.findIdx? p = (xs.findIdx? p).map (relocate xs ys) := by
  cases hf : xs.findIdx? p with
  | none =>
    rw [Option.map_none, List.findIdx?_eq_none_iff]
    refine fun a ha ↦ Bool.eq_false_iff.mpr fun hpa ↦ ?_
    exact Bool.eq_false_iff.mp (List.findIdx?_eq_none_iff.mp hf a (hx a ha hpa)) hpa
  | some i =>
    obtain ⟨hi, hpi, -⟩ := List.findIdx?_eq_some_iff_getElem.mp hf
    have hm : xs[i] ∈ ys := h (List.getElem_mem hi)
    have hloc : relocate xs ys i = ys.idxOf xs[i] := by
      rw [relocate, List.getElem?_eq_getElem hi]
    rw [Option.map_some, hloc, List.findIdx?_eq_some_iff_getElem]
    refine ⟨List.idxOf_lt_length_of_mem hm, by rwa [List.getElem_idxOf], fun j hj hpj ↦ ?_⟩
    have hj' := hj.trans (List.idxOf_lt_length_of_mem hm)
    rw [← hp _ (List.getElem_mem hj') _ hm hpj hpi, hn.idxOf_getElem] at hj
    exact hj.false

end

theorem Grammar.exists_validate_eq_ok_iff {g : Grammar} {allowLeftRecursion : Bool} :
    (∃ warnings, g.validate allowLeftRecursion = .ok warnings) ↔
      allowLeftRecursion = true ∨ g.leftRecursiveCycles = [] := by
  unfold validate
  cases allowLeftRecursion <;> cases g.leftRecursiveCycles <;> simp

namespace GrammarBuilder

variable {b b' : GrammarBuilder} {g g' : Grammar} {name : String}

def symbolMap (b b' : GrammarBuilder) : SymbolMap where
  nonTerminal := relocate b.rules b'.rules
  terminal := relocate b.terminalTexts b'.terminalTexts

/-- The rules of `b` are rules of `b'`, and among them are all that the texts of `b` name there. -/
structure Within (b b' : GrammarBuilder) : Prop where
  rules : b.rules ⊆ b'.rules
  nodup_names : b.ruleNames.Nodup
  nodup_names_of : b'.ruleNames.Nodup
  closed : ∀ text ∈ b.texts, text ∈ b'.ruleNames → text ∈ b.ruleNames
  entryPoint : b.entryPoint = b'.entryPoint
  mem_of_entryPoint : ∀ name, b'.entryPoint = some name → name ∈ b'.ruleNames → name ∈ b.ruleNames
  mem_patterns_iff : ∀ text, text ∈ b.patterns ↔ text ∈ b'.patterns
  mem_literals_iff : ∀ text, text ∈ b.literals ↔ text ∈ b'.literals
  policy : b.policy = b'.policy
  endMarker : b.endMarker = b'.endMarker
  allowLeftRecursion : b.allowLeftRecursion = b'.allowLeftRecursion

theorem mem_texts {rule : RuleDraft} (hr : rule ∈ b.rules) {alternative : List String}
    (ha : alternative ∈ rule.alternatives) (hn : name ∈ alternative) : name ∈ b.texts :=
  List.mem_flatMap.mpr ⟨rule, hr, List.mem_flatten.mpr ⟨alternative, ha, hn⟩⟩

namespace Within

theorem ruleNames (h : b.Within b') : b.ruleNames ⊆ b'.ruleNames :=
  List.map_subset _ h.rules

theorem texts (h : b.Within b') : b.texts ⊆ b'.texts := by
  intro text hm
  obtain ⟨rule, hr, hm⟩ := List.mem_flatMap.mp hm
  exact List.mem_flatMap.mpr ⟨rule, h.rules hr, hm⟩

theorem terminalTexts (h : b.Within b') : b.terminalTexts ⊆ b'.terminalTexts := by
  intro text hm
  rw [mem_terminalTexts_iff] at hm ⊢
  exact ⟨h.texts hm.1, mt (h.closed text hm.1) hm.2⟩

theorem infersPattern (h : b.Within b') : b.infersPattern = b'.infersPattern := by
  funext text
  rw [Bool.eq_iff_iff, infersPattern_iff, infersPattern_iff, h.policy, h.mem_literals_iff,
    h.mem_patterns_iff]

theorem classify (h : b.Within b') : b.classify = b'.classify := by
  funext text
  have hp : b.patterns.contains text = b'.patterns.contains text := by
    rw [Bool.eq_iff_iff, List.contains_iff_mem, List.contains_iff_mem, h.mem_patterns_iff]
  rw [GrammarBuilder.classify, GrammarBuilder.classify, h.infersPattern, hp]

theorem findIdx?_name (h : b.Within b') (hn : name ∈ b'.ruleNames → name ∈ b.ruleNames) :
    b'.rules.findIdx? (·.name == name) =
      (b.rules.findIdx? (·.name == name)).map (symbolMap b b').nonTerminal := by
  have hinj {rule rule' : RuleDraft} (hr : rule ∈ b'.rules) (hr' : rule' ∈ b'.rules)
      (he : rule.name = rule'.name) : rule = rule' :=
    List.inj_on_of_nodup_map h.nodup_names_of hr hr' he
  refine findIdx?_relocate h.rules h.nodup_names_of.of_map (fun rule hr rule' hr' hp hp' ↦ ?_)
    fun rule hr hp ↦ ?_
  · exact hinj hr hr' ((beq_iff_eq.mp hp).trans (beq_iff_eq.mp hp').symm)
  · cases beq_iff_eq.mp hp
    obtain ⟨rule', hr', he⟩ := List.mem_map.mp (hn (List.mem_map_of_mem hr))
    rwa [← hinj (h.rules hr') hr he]

theorem resolve (h : b.Within b') (hn : name ∈ b.texts) :
    b'.resolve b'.terminalTexts name = (symbolMap b b').apply (b.resolve b.terminalTexts name) := by
  unfold GrammarBuilder.resolve
  rw [h.findIdx?_name (h.closed name hn)]
  cases hi : b.rules.findIdx? (·.name == name) with
  | some id => rfl
  | none =>
    have hm : name ∈ b.terminalTexts := by
      refine mem_terminalTexts_iff.mpr ⟨hn, fun hr ↦ ?_⟩
      obtain ⟨rule, hrule, rfl⟩ := List.mem_map.mp hr
      simpa using List.findIdx?_eq_none_iff.mp hi rule hrule
    exact congrArg Symbol.terminal (relocate_idxOf hm).symm

theorem alternatives_resolveRule (h : b.Within b') {rule : RuleDraft} (hr : rule ∈ b.rules) :
    (b'.resolveRule b'.terminalTexts rule).alternatives =
      (b.resolveRule b.terminalTexts rule).alternatives.map (·.map (symbolMap b b').apply) := by
  simp only [resolveRule, List.map_map]
  refine List.map_congr_left fun alternative ha ↦ ?_
  rw [Function.comp_apply, List.map_map]
  exact List.map_congr_left fun name hn ↦ h.resolve (mem_texts hr ha hn)

theorem embeds_draft (h : b.Within b') {terminals terminals' : List Terminal}
    (ht : b.terminalTexts.mapM b.classify = .ok terminals)
    (ht' : b'.terminalTexts.mapM b'.classify = .ok terminals') (id id' : Nat) :
    (symbolMap b b').Embeds (b.draft id terminals) (b'.draft id' terminals') := by
  have hrule (id : Nat) : b'.rules[(symbolMap b b').nonTerminal id]? = b.rules[id]? :=
    getElem?_relocate h.rules id
  constructor
  case nonTerminal_injective => exact relocate_injective h.rules h.nodup_names.of_map
  case terminal_injective => exact relocate_injective h.terminalTexts b.nodup_terminalTexts
  case alternativesOf =>
    intro id
    simp only [Grammar.alternativesOf, GrammarBuilder.draft, List.getElem?_toArray,
      List.getElem?_map, hrule]
    cases hr : b.rules[id]? with
    | none => rfl
    | some rule => exact h.alternatives_resolveRule (List.mem_of_getElem? hr)
  case ruleName =>
    intro id
    simp only [Grammar.ruleName, GrammarBuilder.draft, List.getElem?_toArray, List.getElem?_map,
      hrule]
    cases b.rules[id]? <;> rfl
  case terminals =>
    intro id
    have hget := congrArg (·[id]?) (map_eq_of_mapM ht)
    have hget' := congrArg (·[(symbolMap b b').terminal id]?) (map_eq_of_mapM (h.classify ▸ ht'))
    have hinj : (Option.map (Except.ok : Terminal → Except GrammarError Terminal)).Injective :=
      Option.map_injective fun _ _ ↦ Except.ok.inj
    simp only [List.getElem?_map] at hget hget'
    simp only [GrammarBuilder.draft, List.getElem?_toArray]
    refine hinj (hget'.symm.trans (Eq.trans ?_ hget))
    exact congrArg _ (getElem?_relocate h.terminalTexts id)
  case endMarker => exact h.endMarker.symm

theorem exists_entryPoint? (h : b.Within b') {id' : Nat} (he : b'.entryPoint? = .ok id') :
    ∃ id, b.entryPoint? = .ok id ∧ id' = (symbolMap b b').nonTerminal id := by
  obtain ⟨⟨name, hname, hid⟩, hempty, hshadow, htags⟩ := entryPoint?_eq_ok_iff.mp he
  rw [h.findIdx?_name (h.mem_of_entryPoint name hname), Option.map_eq_some_iff] at hid
  obtain ⟨id, hid, rfl⟩ := hid
  rw [List.find?_eq_none] at hempty hshadow htags
  refine ⟨id, entryPoint?_eq_ok_iff.mpr ⟨⟨name, h.entryPoint.trans hname, hid⟩, ?_, ?_, ?_⟩, rfl⟩
  · rw [List.find?_eq_none]
    exact fun rule hr ↦ hempty rule (h.rules hr)
  · rw [List.find?_eq_none]
    intro text ht hr
    refine hshadow text ((h.mem_patterns_iff text).mp ht) ?_
    rw [hasRule_eq_true_iff] at hr ⊢
    exact h.ruleNames hr
  · rw [List.find?_eq_none]
    intro text ht
    rw [List.contains_iff_mem, h.mem_literals_iff, ← List.contains_iff_mem]
    exact htags text ((h.mem_patterns_iff text).mp ht)

theorem exists_build (h : b.Within b') (hg : b'.build = .ok g') : ∃ g, b.build = .ok g := by
  obtain ⟨id', terminals', warnings', he, hp, ht', hv, -⟩ := build_eq_ok_iff.mp hg
  obtain ⟨id, hid, -⟩ := h.exists_entryPoint? he
  have hp' : (b.patterns.forM fun pattern ↦ (compilePattern pattern).map fun _ ↦ ()) = .ok () := by
    rw [forM_eq_ok_iff] at hp ⊢
    exact fun text hm ↦ hp text ((h.mem_patterns_iff text).mp hm)
  obtain ⟨terminals, ht⟩ : ∃ terminals, b.terminalTexts.mapM b.classify = .ok terminals := by
    refine exists_mapM_eq_ok fun text hm ↦ ?_
    rw [h.classify]
    exact exists_eq_ok_of_mapM ht' (h.terminalTexts hm)
  obtain ⟨warnings, hw⟩ :
      ∃ warnings, (b.draft id terminals).validate b.allowLeftRecursion = .ok warnings := by
    rw [Grammar.exists_validate_eq_ok_iff, h.allowLeftRecursion]
    refine (Grammar.exists_validate_eq_ok_iff.mp ⟨warnings', hv⟩).imp_right fun hc ↦ ?_
    exact (h.embeds_draft ht ht' _ _).leftRecursiveCycles_eq_nil hc
  exact ⟨_, build_eq_ok_iff.mpr ⟨id, terminals, warnings, hid, hp', ht, hw, rfl⟩⟩

theorem embeds (h : b.Within b') (hg : b.build = .ok g) (hg' : b'.build = .ok g') :
    (symbolMap b b').Embeds g g' ∧ g'.entryPoint = (symbolMap b b').nonTerminal g.entryPoint := by
  obtain ⟨id, terminals, warnings, he, -, ht, -, rfl⟩ := build_eq_ok_iff.mp hg
  obtain ⟨id', terminals', warnings', he', -, ht', -, rfl⟩ := build_eq_ok_iff.mp hg'
  have hdraft := h.embeds_draft ht ht' id id'
  refine ⟨⟨hdraft.nonTerminal_injective, hdraft.terminal_injective, hdraft.alternativesOf,
    hdraft.ruleName, hdraft.terminals, hdraft.endMarker⟩, ?_⟩
  obtain ⟨i, hi, rfl⟩ := h.exists_entryPoint? he'
  cases Except.ok.inj (he.symm.trans hi)
  rfl

end Within

end GrammarBuilder

end TopDown
