import TopDown.Proofs.Improvement
import TopDown.Proofs.TreeHeight

namespace TopDown

namespace Grammar

variable {g : Grammar} {heights heights' : Array (Option Nat)} {v w : Option Nat}
  {id h m patience : Nat} {order : List Nat} {xs alternative : List Symbol}

theorem heightImprovement_le_iff :
    g.heightImprovement.Le v w ↔ ∀ h, v = some h → ∃ k ≤ h, w = some k := by
  cases v <;> cases w <;> simp [Improvement.Le, heightImprovement, lower]

theorem greatestHeight?_mono (hle : g.heightImprovement.Below heights heights')
    (hm : greatestHeight? heights xs = some m) :
    ∃ k ≤ m, greatestHeight? heights' xs = some k := by
  induction xs generalizing m with
  | nil => exact ⟨m, le_rfl, hm⟩
  | cons x xs ih =>
    cases x with
    | terminal | endMarker => exact ih hm
    | nonTerminal id =>
      obtain ⟨h, n, hid, hrest, rfl⟩ := greatestHeight?_nonTerminal_iff.mp hm
      obtain ⟨h', hh, hid'⟩ := heightImprovement_le_iff.mp (hle id) h hid
      obtain ⟨n', hn, hrest'⟩ := ih hrest
      exact ⟨max h' n', max_le_max hh hn,
        greatestHeight?_nonTerminal_iff.mpr ⟨h', n', hid', hrest', rfl⟩⟩

theorem alternativeHeight?_mono (hle : g.heightImprovement.Below heights heights')
    (hh : alternativeHeight? heights alternative = some h) :
    ∃ k ≤ h, alternativeHeight? heights' alternative = some k := by
  obtain ⟨m, hm, rfl⟩ := Option.map_eq_some_iff.mp hh
  obtain ⟨k, hk, hk'⟩ := greatestHeight?_mono hle hm
  exact ⟨k + 1, Nat.succ_le_succ hk, by rw [alternativeHeight?, hk']; rfl⟩

theorem lawful_heightImprovement (g : Grammar) : g.heightImprovement.Lawful where
  le_trans := by
    simp only [heightImprovement_le_iff]
    intro u v w huv hvw h hu
    obtain ⟨k, hk, hv⟩ := huv h hu
    obtain ⟨m, hm, hw⟩ := hvw k hv
    exact ⟨m, hm.trans hk, hw⟩
  le_antisymm {v w} hvw hwv := by
    rw [heightImprovement_le_iff] at hvw hwv
    cases v with
    | some h =>
      obtain ⟨k, hk, rfl⟩ := hvw h rfl
      obtain ⟨m, hm, hmk⟩ := hwv k rfl
      cases hmk
      exact congrArg some (Nat.le_antisymm hm hk)
    | none =>
      refine (Option.eq_none_iff_forall_ne_some.mpr fun k hk ↦ ?_).symm
      obtain ⟨m, -, hm⟩ := hwv k hk
      cases hm
  le_total v w := by
    simp only [heightImprovement_le_iff]
    cases v with
    | none => exact .inl nofun
    | some h =>
      cases w with
      | none => exact .inr nofun
      | some k =>
        rcases Nat.le_total k h with hkh | hhk
        · exact .inl fun _ hv ↦ ⟨k, hkh.trans_eq (Option.some.inj hv), rfl⟩
        · exact .inr fun _ hw ↦ ⟨h, hhk.trans_eq (Option.some.inj hw), rfl⟩
  worst_le v := heightImprovement_le_iff.mpr nofun
  value_mono {heights heights'} hle id := by
    rw [heightImprovement_le_iff]
    intro h hmin
    obtain ⟨⟨alternative, ha, hh⟩, -⟩ := min?_alternativeHeight?_iff.mp hmin
    obtain ⟨k, hk, hk'⟩ := alternativeHeight?_mono hle hh
    have hmem : k ∈ (g.alternativesOf id).filterMap (alternativeHeight? heights') :=
      List.mem_filterMap.mpr ⟨alternative, ha, hk'⟩
    obtain ⟨l, hl⟩ := Option.isSome_iff_exists.mp (List.isSome_min?_of_mem hmem)
    exact ⟨l, ((List.min?_eq_some_iff.mp hl).2 k hmem).trans hk, hl⟩

theorem size_heightsUpTo (n : Nat) : (g.heightsUpTo n).size = g.rules.size := by
  cases n with
  | zero => exact Array.size_replicate
  | succ n => exact Array.size_map

theorem rounds_heightsUpTo (g : Grammar) :
    g.heightImprovement.Rounds g.rules.size g.heightsUpTo where
  zero_eq := rfl
  size_eq := size_heightsUpTo
  entry_succ _ _ _ := getD_heightsUpTo_succ

theorem closed_heights (hg : g.WellFormed) : g.heightImprovement.Closed g.heights := by
  intro id
  rw [heightImprovement_le_iff]
  intro h hh
  exact ⟨h, le_rfl, (getD_heights_eq hg id).trans hh⟩

theorem heights_of_search (hg : g.WellFormed) (horder : ∀ id < g.rules.size, id ∈ order)
    (hp : g.rules.size < patience) :
    g.heightImprovement.best? g.rules.size order patience = some g.heights :=
  g.rounds_heightsUpTo.best?_eq g.lawful_heightImprovement (closed_heights hg) horder hp

theorem getElem?_heights_eq_some_some_iff :
    g.heights[id]? = some (some h) ↔ g.heights.getD id none = some h := by
  rw [Array.getD_eq_getD_getElem?]
  cases g.heights[id]? <;> simp

theorem getElem?_heights_eq_some_none_iff :
    g.heights[id]? = some none ↔ id < g.rules.size ∧ (g.heights.getD id none).isSome = false := by
  have hs : g.heights.size = g.rules.size := size_heightsUpTo _
  rw [← hs, Array.getD_eq_getD_getElem?]
  by_cases hid : id < g.heights.size <;> simp [hid]

theorem greatestHeight?_of_nonTerminalsOf_eq_nil (hx : Symbol.nonTerminalsOf xs = []) :
    greatestHeight? heights xs = some 0 := by
  induction xs with
  | nil => rfl
  | cons x xs ih =>
    cases x with
    | nonTerminal id => cases hx
    | terminal | endMarker => exact ih hx

theorem exists_lower_alternative (hg : g.WellFormed) (hh : g.heights.getD id none = some h) :
    ∃ alternative ∈ g.alternativesOf id, ∀ inner, .nonTerminal inner ∈ alternative →
      ∃ k < h, g.heights.getD inner none = some k := by
  rw [getD_heights_eq hg, min?_alternativeHeight?_iff] at hh
  obtain ⟨⟨alternative, ha, hheight⟩, -⟩ := hh
  obtain ⟨m, hm, rfl⟩ := Option.map_eq_some_iff.mp hheight
  refine ⟨alternative, ha, fun inner hinner ↦ ?_⟩
  obtain ⟨k, hk, hk'⟩ := exists_height_of_mem hm hinner
  exact ⟨k, Nat.lt_succ_of_le hk, hk'⟩

end Grammar

open Grammar

/--
Computing the heights of the rules again and again, where a height that is found or corrected is
used at once, comes to an end for every order of the rules. It ends with the least heights of
derivation trees, and with none for the rules that derive no terminals.
-/
theorem heights_exact {b : GrammarBuilder} {g : Grammar} (hb : b.build = .ok g) :
    (∀ order : List Nat, (∀ id < g.rules.size, id ∈ order) → ∀ patience, g.rules.size < patience →
      g.heightImprovement.best? g.rules.size order patience = some g.heights) ∧
    (∀ id < g.rules.size,
      (∀ h, g.heights[id]? = some (some h) ↔
        (∃ w : List Nat, g.Derives [.nonTerminal id] (w.map .terminal)) ∧
          IsLeast (g.treeHeights id) h) ∧
      (g.heights[id]? = some none ↔
        ¬ ∃ w : List Nat, g.Derives [.nonTerminal id] (w.map .terminal))) ∧
    (∀ id, ∀ alternative ∈ g.alternativesOf id, Symbol.nonTerminalsOf alternative = [] →
      g.heights[id]? = some (some 1)) ∧
    ∀ id h, g.heights[id]? = some (some h) → ∃ alternative ∈ g.alternativesOf id,
      ∀ inner, .nonTerminal inner ∈ alternative → ∃ k < h, g.heights[inner]? = some (some k) := by
  have hg := GrammarBuilder.build_wellFormed hb
  simp only [getElem?_heights_eq_some_some_iff, getElem?_heights_eq_some_none_iff]
  refine ⟨fun order horder patience hp ↦ heights_of_search hg horder hp, fun id hid ↦ ⟨fun h ↦ ?_,
    ?_⟩, fun id alternative ha hx ↦ ?_, fun id h hh ↦ exists_lower_alternative hg hh⟩
  · rw [getD_heights_iff hg]
    exact (and_iff_right_of_imp fun hh ↦ treeHeights_nonempty_iff.mp ⟨h, hh.1⟩).symm
  · rw [← isSome_heights_iff hg, Bool.not_eq_true]
    exact and_iff_right hid
  · rw [getD_heights_eq hg, min?_alternativeHeight?_iff]
    refine ⟨⟨alternative, ha, ?_⟩, fun _ _ k hk ↦ ?_⟩
    · rw [alternativeHeight?, greatestHeight?_of_nonTerminalsOf_eq_nil hx]
      rfl
    · obtain ⟨m, -, rfl⟩ := Option.map_eq_some_iff.mp hk
      exact Nat.le_add_left 1 m

/--
In the order of the rules, the first sweep finds a tree of height four for `S`, and the second one
corrects it by that through `W`. No tree of `L` comes to an end.
-/
def GrammarBuilder.corrected : GrammarBuilder where
  entryPoint := some "S"
  rules := [⟨"T", [["t"]]⟩, ⟨"U", [["T", "u"]]⟩, ⟨"V", [["U", "S"], ["U"]]⟩,
    ⟨"S", [["V"], ["W", "L"], ["W"]]⟩, ⟨"W", [["w"]]⟩, ⟨"L", [["l", "L"]]⟩]

theorem heights_exact_corrected : ∃ g, GrammarBuilder.corrected.build = .ok g ∧
    g.heights = #[some 1, some 2, some 3, some 2, some 1, none] ∧
    (g.heightImprovement.sweep g.nonTerminals (Array.replicate 6 none)).1 =
      #[some 1, some 2, some 3, some 4, some 1, none] ∧
    g.heightImprovement.best? 6 g.nonTerminals 7 = some g.heights ∧
    IsLeast (g.treeHeights 3) 2 ∧
    ¬ ∃ w : List Nat, g.Derives [.nonTerminal 5] (w.map .terminal) := by
  have hok : (GrammarBuilder.corrected.build.toOption.any fun g ↦ g.rules.size == 6 &&
      g.heights == #[some 1, some 2, some 3, some 2, some 1, none] &&
      (g.heightImprovement.sweep g.nonTerminals (Array.replicate 6 none)).1 ==
        #[some 1, some 2, some 3, some 4, some 1, none]) = true := by
    decide +kernel
  cases hg : GrammarBuilder.corrected.build with
  | error e =>
    rw [hg] at hok
    cases hok
  | ok g =>
    simp only [hg, Except.toOption, Option.any_some, Bool.and_eq_true, beq_iff_eq] at hok
    obtain ⟨⟨hs, hh⟩, hfirst⟩ := hok
    obtain ⟨hend, hiff, -, -⟩ := heights_exact hg
    rw [hs] at hend hiff
    refine ⟨g, rfl, hh, hfirst, hend _ (fun id hid ↦ ?_) 7 (by decide), ?_, ?_⟩
    · rwa [nonTerminals, List.mem_range, hs]
    · exact (((hiff 3 (by decide)).1 2).mp (by rw [hh]; rfl)).2
    · exact (hiff 5 (by decide)).2.mp (by rw [hh]; rfl)

end TopDown
