import Mathlib.Order.Lattice.Nat
import TopDown.Proofs.DerivationTree
import TopDown.Proofs.Nullable
import TopDown.Sentence.Height

namespace TopDown.Grammar

variable {g : Grammar} {heights : Array (Option Nat)} {id n h m : Nat} {xs : List Symbol}

def treeHeights (g : Grammar) (id : Nat) : Set Nat :=
  {h | ∃ f : Forest, f.Follows g ∧ f.roots = [.nonTerminal id] ∧ f.height = h}

def leastHeights (g : Grammar) : Set Nat :=
  {h | ∃ id, IsLeast (g.treeHeights id) h}

theorem greatestHeight?_nonTerminal_iff :
    greatestHeight? heights (.nonTerminal id :: xs) = some m ↔
      ∃ h k, heights.getD id none = some h ∧ greatestHeight? heights xs = some k ∧
        max h k = m := by
  rw [greatestHeight?]
  cases heights.getD id none with
  | none => simp
  | some h => cases greatestHeight? heights xs <;> simp

theorem exists_height_of_mem (h : greatestHeight? heights xs = some m)
    (hx : .nonTerminal id ∈ xs) : ∃ k ≤ m, heights.getD id none = some k := by
  induction xs generalizing m with
  | nil => cases hx
  | cons x xs ih =>
    rcases List.mem_cons.mp hx with rfl | hxs
    · obtain ⟨k, l, hk, -, rfl⟩ := greatestHeight?_nonTerminal_iff.mp h
      exact ⟨k, le_max_left k l, hk⟩
    · cases x with
      | terminal | endMarker => exact ih h hxs
      | nonTerminal id =>
        obtain ⟨k, l, -, hl, rfl⟩ := greatestHeight?_nonTerminal_iff.mp h
        obtain ⟨i, hi, hid⟩ := ih hl hxs
        exact ⟨i, hi.trans (le_max_right k l), hid⟩

theorem min?_alternativeHeight?_iff {alternatives : List (List Symbol)} :
    (alternatives.filterMap (alternativeHeight? heights)).min? = some h ↔
      (∃ alternative ∈ alternatives, alternativeHeight? heights alternative = some h) ∧
        ∀ alternative ∈ alternatives, ∀ k, alternativeHeight? heights alternative = some k →
          h ≤ k := by
  rw [List.min?_eq_some_iff, List.mem_filterMap]
  refine and_congr_right fun _ ↦ ⟨fun hle alternative ha k hk ↦ ?_, fun hle k hk ↦ ?_⟩
  · exact hle k (List.mem_filterMap.mpr ⟨alternative, ha, hk⟩)
  · obtain ⟨alternative, ha, hk⟩ := List.mem_filterMap.mp hk
    exact hle alternative ha k hk

theorem getD_heightsUpTo_zero : (g.heightsUpTo 0).getD id none = none := by
  simp [heightsUpTo, Array.getD]

theorem getD_heightsUpTo_succ : (g.heightsUpTo (n + 1)).getD id none =
    ((g.alternativesOf id).filterMap (alternativeHeight? (g.heightsUpTo n))).min? := by
  rw [heightsUpTo, alternativesOf, Array.getD_eq_getD_getElem?, Array.getElem?_map]
  cases g.rules[id]? <;> rfl

theorem exists_greatestHeight?_of_follows {f : Forest} (hf : f.Follows g) (hn : f.height ≤ n) :
    ∃ m ≤ f.height, greatestHeight? (g.heightsUpTo n) f.roots = some m := by
  induction f generalizing n with
  | nil => exact ⟨0, le_rfl, rfl⟩
  | leaf terminal token others ih => exact ih hf hn
  | node id children others ihc iho =>
    obtain ⟨ha, hc, ho⟩ := hf
    obtain ⟨hlevel, hothers⟩ := max_le_iff.mp hn
    obtain ⟨n, rfl⟩ := Nat.exists_eq_add_of_le' (Nat.le_of_add_left_le hlevel)
    obtain ⟨m, hm, hheight⟩ := ihc hc (Nat.le_of_succ_le_succ hlevel)
    obtain ⟨k, hk, hrest⟩ := iho ho hothers
    have hmem : m + 1 ∈ (g.alternativesOf id).filterMap (alternativeHeight? (g.heightsUpTo n)) :=
      List.mem_filterMap.mpr ⟨children.roots, ha, by rw [alternativeHeight?, hheight]; rfl⟩
    obtain ⟨l, hl⟩ := Option.isSome_iff_exists.mp (List.isSome_min?_of_mem hmem)
    have hle : l ≤ m + 1 := (List.min?_eq_some_iff.mp hl).2 _ hmem
    refine ⟨max l k, ?_, greatestHeight?_nonTerminal_iff.mpr ⟨l, k, ?_, hrest, rfl⟩⟩
    · exact max_le_max (hle.trans (Nat.succ_le_succ hm)) hk
    · rw [getD_heightsUpTo_succ, hl]

theorem mem_treeHeights_iff : h ∈ g.treeHeights id ↔ ∃ children : Forest,
    children.roots ∈ g.alternativesOf id ∧ children.Follows g ∧ children.height + 1 = h := by
  constructor
  · intro hm
    obtain ⟨f, hf, hr, rfl⟩ := hm
    cases f with
    | nil => cases hr
    | leaf terminal token others => cases hr
    | node id children others =>
      obtain ⟨hid, hothers⟩ := List.cons.inj hr
      cases hid
      cases others with
      | nil => exact ⟨children, hf.1, hf.2.1, (max_eq_left (Nat.zero_le _)).symm⟩
      | leaf | node => cases hothers
  · intro hm
    obtain ⟨children, ha, hc, rfl⟩ := hm
    exact ⟨.node id children .nil, ⟨ha, hc, trivial⟩, rfl, max_eq_left (Nat.zero_le _)⟩

theorem exists_forest_of_greatestHeight?
    (hh : ∀ id h, heights.getD id none = some h → h ∈ g.treeHeights id ∧ h ≤ n)
    (hx : .endMarker ∉ xs) (h : greatestHeight? heights xs = some m) :
    (∃ f : Forest, f.Follows g ∧ f.roots = xs ∧ f.height = m) ∧ m ≤ n := by
  induction xs generalizing m with
  | nil =>
    cases h
    exact ⟨⟨.nil, trivial, rfl, rfl⟩, Nat.zero_le n⟩
  | cons x xs ih =>
    obtain ⟨hne, hxs⟩ := not_or.mp (mt List.mem_cons.mpr hx)
    cases x with
    | endMarker => exact absurd rfl hne
    | terminal id =>
      obtain ⟨⟨f, hf, rfl, rfl⟩, hm⟩ := ih hxs h
      exact ⟨⟨.leaf id "" f, hf, rfl, rfl⟩, hm⟩
    | nonTerminal id =>
      obtain ⟨k, l, hk, hl, rfl⟩ := greatestHeight?_nonTerminal_iff.mp h
      obtain ⟨⟨f, hf, rfl, rfl⟩, hm⟩ := ih hxs hl
      obtain ⟨htree, hn⟩ := hh id k hk
      obtain ⟨children, ha, hc, rfl⟩ := mem_treeHeights_iff.mp htree
      exact ⟨⟨.node id children f, ⟨ha, hc, hf⟩, rfl, rfl⟩, max_le hn hm⟩

theorem mem_treeHeights_of_heightsUpTo (hg : g.WellFormed)
    (h' : (g.heightsUpTo n).getD id none = some h) : h ∈ g.treeHeights id ∧ h ≤ n := by
  induction n generalizing id h with
  | zero =>
    rw [getD_heightsUpTo_zero] at h'
    cases h'
  | succ n ih =>
    rw [getD_heightsUpTo_succ, min?_alternativeHeight?_iff] at h'
    obtain ⟨⟨alternative, ha, hheight⟩, -⟩ := h'
    obtain ⟨m, hm, rfl⟩ := Option.map_eq_some_iff.mp hheight
    have hx : .endMarker ∉ alternative := hg.has_of_mem id alternative ha .endMarker
    obtain ⟨⟨f, hf, rfl, rfl⟩, hn⟩ := exists_forest_of_greatestHeight? (fun _ _ ↦ ih) hx hm
    exact ⟨mem_treeHeights_iff.mpr ⟨f, ha, hf, rfl⟩, Nat.succ_le_succ hn⟩

theorem getD_heightsUpTo_iff (hg : g.WellFormed) :
    (g.heightsUpTo n).getD id none = some h ↔ IsLeast (g.treeHeights id) h ∧ h ≤ n := by
  have hround {k : Nat} (hk : k ∈ g.treeHeights id) (hn : k ≤ n) :
      ∃ m ≤ k, (g.heightsUpTo n).getD id none = some m := by
    obtain ⟨f, hf, hr, rfl⟩ := hk
    obtain ⟨m, hm, hheight⟩ := exists_greatestHeight?_of_follows hf hn
    rw [hr] at hheight
    obtain ⟨i, j, hi, hj, rfl⟩ := greatestHeight?_nonTerminal_iff.mp hheight
    exact ⟨i, (le_max_left i j).trans hm, hi⟩
  constructor
  · intro hh
    obtain ⟨hmem, hn⟩ := mem_treeHeights_of_heightsUpTo hg hh
    refine ⟨⟨hmem, fun k hk ↦ ?_⟩, hn⟩
    rcases Nat.le_total k n with hkn | hnk
    · obtain ⟨m, hm, hround⟩ := hround hk hkn
      cases hh.symm.trans hround
      exact hm
    · exact hn.trans hnk
  · intro hh
    obtain ⟨⟨hmem, hle⟩, hn⟩ := hh
    obtain ⟨m, hm, hround⟩ := hround hmem hn
    have hlow := hle (mem_treeHeights_of_heightsUpTo hg hround).1
    rw [hround, le_antisymm hm hlow]

def productiveRound (g : Grammar) (known : Array Bool) : Array Bool :=
  g.rules.map fun rule ↦ rule.alternatives.any fun alternative ↦
    (Symbol.nonTerminalsOf alternative).all (isKnown known)

def productiveAfter (g : Grammar) (n : Nat) : Array Bool :=
  (g.heightsUpTo n).map Option.isSome

theorem isKnown_map_isSome :
    isKnown (heights.map Option.isSome) id = (heights.getD id none).isSome := by
  unfold isKnown
  simp only [Array.getD_eq_getD_getElem?, Array.getElem?_map]
  cases heights[id]? <;> rfl

theorem isSome_greatestHeight? : (greatestHeight? heights xs).isSome =
    (Symbol.nonTerminalsOf xs).all (isKnown (heights.map Option.isSome)) := by
  induction xs with
  | nil => rfl
  | cons x xs ih =>
    cases x with
    | terminal | endMarker => exact ih
    | nonTerminal id =>
      rw [Symbol.nonTerminalsOf_cons_nonTerminal, List.all_cons, ← ih, isKnown_map_isSome,
        greatestHeight?]
      cases heights.getD id none with
      | none => rfl
      | some h => cases greatestHeight? heights xs <;> rfl

theorem isSome_alternativeHeight? : (alternativeHeight? heights xs).isSome =
    (Symbol.nonTerminalsOf xs).all (isKnown (heights.map Option.isSome)) := by
  rw [alternativeHeight?, Option.isSome_map, isSome_greatestHeight?]

theorem isSome_ruleHeight? {rule : Rule} : (ruleHeight? heights rule).isSome =
    rule.alternatives.any fun alternative ↦
      (Symbol.nonTerminalsOf alternative).all (isKnown (heights.map Option.isSome)) := by
  unfold ruleHeight?
  simp only [← isSome_alternativeHeight?]
  rw [Bool.eq_iff_iff, List.any_eq_true, Option.isSome_iff_exists]
  constructor
  · intro h
    obtain ⟨k, hk⟩ := h
    obtain ⟨⟨alternative, ha, hheight⟩, -⟩ := min?_alternativeHeight?_iff.mp hk
    exact ⟨alternative, ha, Option.isSome_iff_exists.mpr ⟨k, hheight⟩⟩
  · intro h
    obtain ⟨alternative, ha, hheight⟩ := h
    obtain ⟨k, hk⟩ := Option.isSome_iff_exists.mp hheight
    exact Option.isSome_iff_exists.mp
      (List.isSome_min?_of_mem (List.mem_filterMap.mpr ⟨alternative, ha, hk⟩))

theorem marks_productive (hg : g.WellFormed) : g.Marks g.productiveRound g.productiveAfter where
  succ_eq n := by
    rw [productiveAfter, heightsUpTo, Array.map_map, productiveRound]
    exact congrArg (g.rules.map ·) (funext fun rule ↦ isSome_ruleHeight?)
  size_eq n := by
    cases n with
    | zero => simp [productiveAfter, heightsUpTo]
    | succ n => simp [productiveAfter, heightsUpTo]
  isKnown_succ n id h := by
    rw [productiveAfter, isKnown_map_isSome, Option.isSome_iff_exists] at h ⊢
    obtain ⟨k, hk⟩ := h
    obtain ⟨hleast, hn⟩ := (getD_heightsUpTo_iff hg).mp hk
    exact ⟨k, (getD_heightsUpTo_iff hg).mpr ⟨hleast, Nat.le_succ_of_le hn⟩⟩

/-- A tree as low as possible has at most as many levels as there are rules. -/
theorem le_size_of_isLeast (hg : g.WellFormed) (h' : IsLeast (g.treeHeights id) h) :
    h ≤ g.rules.size := by
  have hknown (n : Nat) (hn : g.rules.size ≤ n) :
      g.productiveAfter n = g.productiveAfter g.rules.size := by
    induction n, hn using Nat.le_induction with
    | base => rfl
    | succ n _ ih =>
      rw [(marks_productive hg).succ_eq, ih]
      exact (marks_productive hg).round_eq
  have hlate : isKnown (g.productiveAfter (max g.rules.size h)) id = true := by
    rw [productiveAfter, isKnown_map_isSome,
      (getD_heightsUpTo_iff hg).mpr ⟨h', le_max_right _ _⟩]
    rfl
  rw [hknown _ (le_max_left _ _), productiveAfter, isKnown_map_isSome] at hlate
  obtain ⟨k, hk⟩ := Option.isSome_iff_exists.mp hlate
  obtain ⟨hleast, hle⟩ := (getD_heightsUpTo_iff hg).mp hk
  exact hleast.unique h' ▸ hle

theorem getD_heights_iff (hg : g.WellFormed) :
    g.heights.getD id none = some h ↔ IsLeast (g.treeHeights id) h := by
  rw [heights, getD_heightsUpTo_iff hg]
  exact and_iff_left_of_imp (le_size_of_isLeast hg)

/-- A rule has a height one above that of its lowest alternative. -/
theorem getD_heights_eq (hg : g.WellFormed) (id : Nat) : g.heights.getD id none =
    ((g.alternativesOf id).filterMap (alternativeHeight? g.heights)).min? := by
  rw [heights, ← getD_heightsUpTo_succ]
  apply Option.ext
  intro h
  rw [getD_heightsUpTo_iff hg, getD_heightsUpTo_iff hg]
  refine and_congr_right fun hleast ↦ ?_
  have hle := le_size_of_isLeast hg hleast
  exact ⟨fun _ ↦ Nat.le_succ_of_le hle, fun _ ↦ hle⟩

theorem treeHeights_nonempty_iff : (g.treeHeights id).Nonempty ↔
    ∃ w : List Nat, g.Derives [.nonTerminal id] (w.map .terminal) := by
  simp only [Forest.derives_iff]
  constructor
  · intro h
    obtain ⟨k, f, hf, hr, -⟩ := h
    exact ⟨f.terminals, f, hf, hr, rfl⟩
  · intro h
    obtain ⟨w, f, hf, hr, -⟩ := h
    exact ⟨f.height, f, hf, hr, rfl⟩

theorem exists_isLeast (h : (g.treeHeights id).Nonempty) : ∃ k, IsLeast (g.treeHeights id) k := by
  classical
  exact ⟨Nat.find h, Nat.find_spec h, fun k hk ↦ Nat.find_min' h hk⟩

theorem isSome_heights_iff (hg : g.WellFormed) : (g.heights.getD id none).isSome = true ↔
    ∃ w : List Nat, g.Derives [.nonTerminal id] (w.map .terminal) := by
  rw [← treeHeights_nonempty_iff, Option.isSome_iff_exists]
  simp only [getD_heights_iff hg]
  constructor
  · intro h
    obtain ⟨k, hk⟩ := h
    exact ⟨k, hk.1⟩
  · exact exists_isLeast

theorem exists_isGreatest_leastHeights (hg : g.WellFormed)
    (h : (g.treeHeights id).Nonempty) : ∃ H, IsGreatest g.leastHeights H := by
  obtain ⟨k, hk⟩ := exists_isLeast h
  have hbound : BddAbove g.leastHeights := by
    refine ⟨g.rules.size, fun m hm ↦ ?_⟩
    obtain ⟨id, hleast⟩ := hm
    exact le_size_of_isLeast hg hleast
  exact ⟨sSup g.leastHeights, Nat.sSup_mem ⟨k, id, hk⟩ hbound, fun m hm ↦ le_csSup hbound hm⟩

end TopDown.Grammar
