import TopDown.Proofs.Derivation
import TopDown.Proofs.Nullable

namespace TopDown.Grammar

variable {g : Grammar} {known : Array Bool} {id : Nat}

/-- The non-terminal occurs in a sequence that derives from the entry point. -/
def Occurs (g : Grammar) (id : Nat) : Prop :=
  ∃ xs, g.Derives [.nonTerminal g.entryPoint] xs ∧ .nonTerminal id ∈ xs

theorem occurs_entryPoint : g.Occurs g.entryPoint :=
  ⟨_, .refl, List.mem_singleton_self _⟩

theorem Occurs.of_mem {i : Nat} (h : g.Occurs i) {alternative : List Symbol}
    (ha : alternative ∈ g.alternativesOf i) (hm : .nonTerminal id ∈ alternative) :
    g.Occurs id := by
  obtain ⟨xs, hd, hx⟩ := h
  obtain ⟨before, after, rfl⟩ := List.append_of_mem hx
  refine ⟨_, hd.tail (.replace before after ha), ?_⟩
  exact List.mem_append_left _ (List.mem_append_right _ hm)

theorem mem_mentions_iff {i : Nat} :
    id ∈ g.mentions i ↔ ∃ alternative ∈ g.alternativesOf i, .nonTerminal id ∈ alternative := by
  have hx (x : Symbol) : x.nonTerminal? = some id ↔ x = .nonTerminal id := by
    cases x <;> simp [Symbol.nonTerminal?]
  simp only [mentions, List.mem_flatMap, List.mem_filterMap, hx, exists_eq_right]

theorem isKnown_setIfInBounds {i : Nat} : isKnown (known.setIfInBounds i true) id = true ↔
    isKnown known id = true ∨ i = id ∧ id < known.size := by
  simp only [isKnown, Array.getD_eq_getD_getElem?, Array.getElem?_setIfInBounds]
  split
  · next he =>
    subst he
    split <;> simp_all
  · next hne => simp [hne]

theorem size_foldl_setIfInBounds (ids : List Nat) (known : Array Bool) :
    (ids.foldl (·.setIfInBounds · true) known).size = known.size := by
  induction ids generalizing known with
  | nil => rfl
  | cons i ids ih => rw [List.foldl_cons, ih, Array.size_setIfInBounds]

theorem isKnown_foldl_setIfInBounds (ids : List Nat) :
    isKnown (ids.foldl (·.setIfInBounds · true) known) id = true ↔
      isKnown known id = true ∨ id ∈ ids ∧ id < known.size := by
  induction ids generalizing known with
  | nil => simp
  | cons i ids ih =>
    rw [List.foldl_cons, ih, isKnown_setIfInBounds, Array.size_setIfInBounds, List.mem_cons,
      eq_comm (a := i)]
    tauto

theorem reachableRound_eq (g : Grammar) (known : Array Bool) :
    g.reachableRound known = ((g.nonTerminals.filter (isKnown known)).flatMap g.mentions).foldl
      (·.setIfInBounds · true) known :=
  List.foldl_flatMap.symm

theorem isKnown_reachableRound : isKnown (g.reachableRound known) id = true ↔
    isKnown known id = true ∨
      (∃ i < g.rules.size, isKnown known i = true ∧ id ∈ g.mentions i) ∧ id < known.size := by
  rw [reachableRound_eq, isKnown_foldl_setIfInBounds]
  simp only [nonTerminals, List.mem_flatMap, List.mem_filter, List.mem_range, and_assoc]

theorem marks_reachable (g : Grammar) : g.Marks g.reachableRound g.reachableAfter where
  succ_eq _ := rfl
  size_eq n := by
    induction n with
    | zero => rw [reachableAfter, Array.size_setIfInBounds, Array.size_replicate]
    | succ n ih => rw [reachableAfter, reachableRound_eq, size_foldl_setIfInBounds, ih]
  isKnown_succ _ _ h := isKnown_reachableRound.mpr (.inl h)

theorem occurs_of_isKnown_reachableAfter {n : Nat} (h : isKnown (g.reachableAfter n) id = true) :
    g.Occurs id := by
  induction n generalizing id with
  | zero =>
    rw [reachableAfter, isKnown_setIfInBounds] at h
    obtain h | ⟨rfl, -⟩ := h
    · simp [isKnown, Array.getD] at h
    · exact occurs_entryPoint
  | succ n ih =>
    obtain h | ⟨⟨i, -, hi, hm⟩, -⟩ := isKnown_reachableRound.mp h
    · exact ih h
    · obtain ⟨alternative, ha, hm⟩ := mem_mentions_iff.mp hm
      exact (ih hi).of_mem ha hm

theorem isKnown_reachable_entryPoint (hg : g.WellFormed) :
    isKnown g.reachable g.entryPoint = true := by
  have h (n : Nat) : isKnown (g.reachableAfter n) g.entryPoint = true := by
    induction n with
    | zero =>
      rw [reachableAfter, isKnown_setIfInBounds, Array.size_replicate]
      exact .inr ⟨rfl, hg.entryPoint_lt⟩
    | succ n ih => exact g.marks_reachable.isKnown_succ n _ ih
  exact h _

theorem isKnown_reachable_of_mem (hg : g.WellFormed) {i : Nat} (hi : isKnown g.reachable i = true)
    {alternative : List Symbol} (ha : alternative ∈ g.alternativesOf i)
    (hm : .nonTerminal id ∈ alternative) : isKnown g.reachable id = true := by
  have hround : g.reachableRound g.reachable = g.reachable := g.marks_reachable.round_eq
  have hsize : g.reachable.size = g.rules.size := g.marks_reachable.size_eq _
  have hlt : i < g.rules.size := by
    by_contra hle
    rw [alternativesOf_eq_nil_of_le (Nat.not_lt.mp hle)] at ha
    cases ha
  rw [← hround, isKnown_reachableRound, hsize]
  exact .inr ⟨⟨i, hlt, hi, mem_mentions_iff.mpr ⟨alternative, ha, hm⟩⟩, hg.has_of_mem i _ ha _ hm⟩

theorem isKnown_reachable_iff (hg : g.WellFormed) :
    isKnown g.reachable id = true ↔ g.Occurs id := by
  refine ⟨occurs_of_isKnown_reachableAfter, ?_⟩
  rintro ⟨xs, hd, hx⟩
  induction hd generalizing id with
  | refl =>
    cases List.mem_singleton.mp hx
    exact isKnown_reachable_entryPoint hg
  | tail _ hr ih =>
    obtain ⟨before, after, ha⟩ := hr
    rw [List.mem_append, List.mem_append] at hx
    obtain (hb | hm) | hb := hx
    · exact ih (List.mem_append_left _ hb)
    · exact isKnown_reachable_of_mem hg
        (ih (List.mem_append_right _ List.mem_cons_self)) ha hm
    · exact ih (List.mem_append_right _ (List.mem_cons_of_mem _ hb))

theorem mem_unreachableRules_iff (hg : g.WellFormed) :
    id ∈ g.unreachableRules ↔ id < g.rules.size ∧ ¬ g.Occurs id := by
  rw [unreachableRules, List.mem_filter, nonTerminals, List.mem_range, ← isKnown_reachable_iff hg,
    Bool.not_eq_true', Bool.not_eq_true]

theorem pairwise_unreachableRules (g : Grammar) : g.unreachableRules.Pairwise (· < ·) :=
  List.pairwise_lt_range.filter _

end TopDown.Grammar
