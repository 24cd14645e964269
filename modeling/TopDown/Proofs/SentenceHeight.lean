import TopDown.Proofs.GeneratedSentence
import TopDown.Proofs.TreeHeight

namespace TopDown

namespace Sentence.Generator

def registered (gen : Generator) (id : Nat) : List String :=
  gen.samples.filterMap fun s ↦ if s.1 = id then some s.2 else none

def sampleBounds (gen : Generator) (id : Nat) : List Nat :=
  match gen.registered id with
  | [] => []
  | tokens => [tokens.length]

def candidatesOf (gen : Generator) (depth id : Nat) : List Nat :=
  gen.candidates (gen.grammar.alternativesOf id) depth

def chosen (gen : Generator) (depth id i : Nat) : List Symbol :=
  (gen.grammar.alternativesOf id).getD ((gen.candidatesOf depth id).getD i 0) []

/--
What becomes of symbols, without a bound on the calls inside of each other: the trees over them, if
there are tokens for all, and the bounds of the random numbers that are drawn on the way.
-/
inductive Expands (gen : Generator) :
    Nat → List Symbol → Rng → Option Forest → Rng → List Nat → Prop
  | nil (depth : Nat) (rng : Rng) : Expands gen depth [] rng (some .nil) rng []
  | endMarker {depth : Nat} {xs : List Symbol} {rng r : Rng} {f? : Option Forest}
      {bounds : List Nat} (rest : Expands gen depth xs rng f? r bounds) :
      Expands gen depth (.endMarker :: xs) rng f? r bounds
  | noToken {depth id : Nat} {rng r : Rng} (xs : List Symbol) (h : gen.sample id rng = (none, r)) :
      Expands gen depth (.terminal id :: xs) rng none r (gen.sampleBounds id)
  | token {depth id : Nat} {xs : List Symbol} {rng r r' : Rng} {token : String}
      {f? : Option Forest} {bounds : List Nat} (h : gen.sample id rng = (some token, r))
      (rest : Expands gen depth xs r f? r' bounds) :
      Expands gen depth (.terminal id :: xs) rng (f?.map (.leaf id token)) r'
        (gen.sampleBounds id ++ bounds)
  | stuck {depth id : Nat} (xs : List Symbol) (rng : Rng) (h : gen.candidatesOf depth id = []) :
      Expands gen depth (.nonTerminal id :: xs) rng none rng []
  | failed {depth id i : Nat} {rng start r : Rng} {bounds : List Nat} (xs : List Symbol)
      (h : gen.candidatesOf depth id ≠ [])
      (draw : rng.below (gen.candidatesOf depth id).length = (i, start))
      (inner : Expands gen (depth + 1) (gen.chosen depth id i) start none r bounds) :
      Expands gen depth (.nonTerminal id :: xs) rng none r
        ((gen.candidatesOf depth id).length :: bounds)
  | node {depth id i : Nat} {xs : List Symbol} {rng start r r' : Rng} {children : Forest}
      {f? : Option Forest} {bounds bounds' : List Nat} (h : gen.candidatesOf depth id ≠ [])
      (draw : rng.below (gen.candidatesOf depth id).length = (i, start))
      (inner : Expands gen (depth + 1) (gen.chosen depth id i) start (some children) r bounds)
      (rest : Expands gen depth xs r f? r' bounds') :
      Expands gen depth (.nonTerminal id :: xs) rng (f?.map (.node id children)) r'
        ((gen.candidatesOf depth id).length :: bounds ++ bounds')

variable {gen : Generator} {depth fuel id i H : Nat} {xs : List Symbol} {rng r r' : Rng}
  {f? f?' : Option Forest} {bounds bounds' : List Nat}

theorem Expands.unique (h : gen.Expands depth xs rng f? r bounds)
    (h' : gen.Expands depth xs rng f?' r' bounds') : f?' = f? ∧ r' = r ∧ bounds' = bounds := by
  induction h generalizing f?' r' bounds' with
  | nil =>
    cases h'
    exact ⟨rfl, rfl, rfl⟩
  | endMarker rest ih =>
    cases h' with
    | endMarker rest' => exact ih rest'
  | noToken xs h =>
    cases h' with
    | noToken _ h' =>
      cases h.symm.trans h'
      exact ⟨rfl, rfl, rfl⟩
    | token h' rest' => cases h.symm.trans h'
  | token h rest ih =>
    cases h' with
    | noToken _ h' => cases h.symm.trans h'
    | token h' rest' =>
      cases h.symm.trans h'
      obtain ⟨rfl, rfl, rfl⟩ := ih rest'
      exact ⟨rfl, rfl, rfl⟩
  | stuck xs rng h =>
    cases h' with
    | stuck => exact ⟨rfl, rfl, rfl⟩
    | failed _ hne => exact absurd h hne
    | node hne => exact absurd h hne
  | failed xs h draw inner ih =>
    cases h' with
    | stuck _ _ hnil => exact absurd hnil h
    | failed _ _ draw' inner' =>
      cases draw.symm.trans draw'
      obtain ⟨-, rfl, rfl⟩ := ih inner'
      exact ⟨rfl, rfl, rfl⟩
    | node _ draw' inner' =>
      cases draw.symm.trans draw'
      cases (ih inner').1
  | node h draw inner rest ihi ihr =>
    cases h' with
    | stuck _ _ hnil => exact absurd hnil h
    | failed _ _ draw' inner' =>
      cases draw.symm.trans draw'
      cases (ihi inner').1
    | node _ draw' inner' rest' =>
      cases draw.symm.trans draw'
      obtain ⟨hc, rfl, rfl⟩ := ihi inner'
      cases hc
      obtain ⟨rfl, rfl, rfl⟩ := ihr rest'
      exact ⟨rfl, rfl, rfl⟩

theorem Expands.bounds_pos (h : gen.Expands depth xs rng f? r bounds) : ∀ n ∈ bounds, 0 < n := by
  have hsample (id : Nat) : ∀ n ∈ gen.sampleBounds id, 0 < n := by
    intro n hn
    unfold sampleBounds at hn
    split at hn
    · cases hn
    · next tokens hne =>
      rw [List.mem_singleton.mp hn]
      exact List.length_pos_of_ne_nil hne
  induction h with
  | nil | stuck => exact fun n hn ↦ absurd hn List.not_mem_nil
  | endMarker rest ih => exact ih
  | noToken => exact hsample _
  | token h rest ih => exact List.forall_mem_append.mpr ⟨hsample _, ih⟩
  | failed xs h draw inner ih =>
    exact List.forall_mem_cons.mpr ⟨List.length_pos_of_ne_nil h, ih⟩
  | node h draw inner rest ihi ihr =>
    exact List.forall_mem_append.mpr
      ⟨List.forall_mem_cons.mpr ⟨List.length_pos_of_ne_nil h, ihi⟩, ihr⟩

theorem mem_candidates_iff {alternatives : List (List Symbol)} :
    i ∈ gen.candidates alternatives depth ↔ ∃ alternative h, alternatives[i]? = some alternative ∧
      Grammar.alternativeHeight? gen.heights alternative = some h ∧ (gen.maxDepth ≤ depth →
        (alternatives.filterMap (Grammar.alternativeHeight? gen.heights)).min? = some h) := by
  have hmem (p : Option Nat × Nat → Bool) :
      i ∈ (((alternatives.map (Grammar.alternativeHeight? gen.heights)).zipIdx).filter p).map
        (·.2) ↔ ∃ alternative, alternatives[i]? = some alternative ∧
          p (Grammar.alternativeHeight? gen.heights alternative, i) = true := by
    simp [List.mem_zipIdx_iff_getElem?, Prod.exists]
  unfold candidates
  simp only [List.filterMap_map, Function.id_comp]
  split_ifs with hdepth
  · generalize (alternatives.filterMap (Grammar.alternativeHeight? gen.heights)).min? = least?
    cases least? with
    | none => simp [hdepth]
    | some least =>
      rw [hmem]
      constructor
      · intro h
        obtain ⟨alternative, ha, hleast⟩ := h
        exact ⟨alternative, least, ha, eq_of_beq hleast, fun _ ↦ rfl⟩
      · intro h
        obtain ⟨alternative, h, ha, hheight, hleast⟩ := h
        refine ⟨alternative, ha, ?_⟩
        rw [hheight, hleast hdepth]
        exact beq_self_eq_true _
  · rw [hmem]
    refine exists_congr fun alternative ↦ ?_
    simp [hdepth, Option.isSome_iff_exists]

theorem mem_candidatesOf_iff (hg : gen.grammar.WellFormed)
    (hh : gen.heights = gen.grammar.heights) : i ∈ gen.candidatesOf depth id ↔
      ∃ alternative h, (gen.grammar.alternativesOf id)[i]? = some alternative ∧
        Grammar.alternativeHeight? gen.heights alternative = some h ∧
        (gen.maxDepth ≤ depth → gen.heights.getD id none = some h) := by
  rw [candidatesOf, mem_candidates_iff, hh, gen.grammar.getD_heights_eq hg]

theorem candidatesOf_ne_nil (hg : gen.grammar.WellFormed) (hh : gen.heights = gen.grammar.heights)
    (hid : (gen.heights.getD id none).isSome = true) : gen.candidatesOf depth id ≠ [] := by
  obtain ⟨h, hheight⟩ := Option.isSome_iff_exists.mp hid
  have hmin := hheight
  rw [hh, gen.grammar.getD_heights_eq hg, Grammar.min?_alternativeHeight?_iff, ← hh] at hmin
  obtain ⟨⟨alternative, ha, hlow⟩, -⟩ := hmin
  obtain ⟨i, hi⟩ := List.mem_iff_getElem?.mp ha
  apply List.ne_nil_of_mem (a := i)
  exact (mem_candidatesOf_iff hg hh).mpr ⟨alternative, h, hi, hlow, fun _ ↦ hheight⟩

theorem chosen_spec (hg : gen.grammar.WellFormed) (hh : gen.heights = gen.grammar.heights)
    (hne : gen.candidatesOf depth id ≠ []) {start : Rng}
    (draw : rng.below (gen.candidatesOf depth id).length = (i, start)) :
    gen.chosen depth id i ∈ gen.grammar.alternativesOf id ∧
      ∃ m, Grammar.greatestHeight? gen.heights (gen.chosen depth id i) = some m ∧
        (gen.maxDepth ≤ depth → gen.heights.getD id none = some (m + 1)) := by
  have hi : i < (gen.candidatesOf depth id).length := by
    have hlt := below_lt rng (List.length_pos_of_ne_nil hne)
    rwa [draw] at hlt
  obtain ⟨alternative, h, ha, hheight, hlow⟩ :=
    (mem_candidatesOf_iff hg hh).mp (List.getElem_mem hi)
  have hc : gen.chosen depth id i = alternative := by
    rw [chosen, List.getD_eq_getElem _ 0 hi, List.getD_eq_getElem?_getD, ha, Option.getD_some]
  obtain ⟨m, hm, rfl⟩ := Option.map_eq_some_iff.mp hheight
  exact hc ▸ ⟨List.mem_of_getElem? ha, m, hm, hlow⟩

/-- A bound on the levels of a tree that is begun at the given depth, with rules as high as `H`. -/
def levels (gen : Generator) (H depth id : Nat) : Nat :=
  if gen.maxDepth ≤ depth then (gen.heights.getD id none).getD 0 else gen.maxDepth - depth + H

theorem levels_of_chosen (hg : gen.grammar.WellFormed) (hh : gen.heights = gen.grammar.heights)
    (hH : ∀ id h, gen.heights.getD id none = some h → h ≤ H) (hne : gen.candidatesOf depth id ≠ [])
    {start : Rng} (draw : rng.below (gen.candidatesOf depth id).length = (i, start)) :
    0 < gen.levels H depth id ∧ ∀ inner, .nonTerminal inner ∈ gen.chosen depth id i →
      gen.levels H (depth + 1) inner < gen.levels H depth id := by
  obtain ⟨-, m, hm, hlow⟩ := chosen_spec hg hh hne draw
  unfold levels
  by_cases hdepth : gen.maxDepth ≤ depth
  · rw [if_pos hdepth, hlow hdepth, Option.getD_some]
    refine ⟨Nat.succ_pos m, fun inner hinner ↦ ?_⟩
    obtain ⟨k, hk, hheight⟩ := Grammar.exists_height_of_mem hm hinner
    rw [if_pos (Nat.le_succ_of_le hdepth), hheight, Option.getD_some]
    exact Nat.lt_succ_of_le hk
  · rw [if_neg hdepth]
    refine ⟨by omega, fun inner hinner ↦ ?_⟩
    obtain ⟨k, -, hheight⟩ := Grammar.exists_height_of_mem hm hinner
    have hk := hH inner k hheight
    rw [hheight, Option.getD_some]
    split_ifs <;> omega

/-- Whether what is returned is what becomes of symbols without a bound on the calls. -/
def Returns (gen : Generator) (depth : Nat) (xs : List Symbol) (rng : Rng)
    (out : Option (List String) × Rng) : Prop :=
  ∃ f? r bounds, gen.Expands depth xs rng f? r bounds ∧ out = (f?.map Forest.tokens, r)

theorem Expands.append_of_none (h : gen.Expands depth [.nonTerminal id] rng none r bounds)
    (xs : List Symbol) : gen.Expands depth (.nonTerminal id :: xs) rng none r bounds := by
  generalize hnone : (none : Option Forest) = f? at h
  cases h with
  | stuck _ _ hc => exact .stuck xs rng hc
  | failed _ hc draw inner => exact .failed xs hc draw inner
  | node hc draw inner rest =>
    cases rest
    cases hnone

theorem Expands.append_of_some {f : Forest}
    (h : gen.Expands depth [.nonTerminal id] rng (some f) r bounds) :
    ∃ children, f = .node id children .nil ∧ ∀ {xs f? r' bounds'},
      gen.Expands depth xs r f? r' bounds' →
        gen.Expands depth (.nonTerminal id :: xs) rng (f?.map (.node id children)) r'
          (bounds ++ bounds') := by
  generalize hsome : some f = f? at h
  cases h with
  | stuck | failed => cases hsome
  | node hc draw inner rest =>
    cases rest
    cases hsome
    refine ⟨_, rfl, fun hrest ↦ ?_⟩
    rw [List.append_nil]
    exact .node hc draw inner hrest

theorem returns_expandAll (hf : ∀ inner, .nonTerminal inner ∈ xs → ∀ rng,
      gen.Returns (depth + 1) [.nonTerminal inner] rng (gen.expand fuel (depth + 1) inner rng))
    (rng : Rng) :
    gen.Returns (depth + 1) xs rng (expandAll (gen.expandSymbol fuel depth) xs rng) := by
  induction xs generalizing rng with
  | nil => exact ⟨some .nil, rng, [], .nil _ rng, rfl⟩
  | cons x xs ih =>
    have hxs := ih fun inner hinner ↦ hf inner (List.mem_cons_of_mem x hinner)
    rw [expandAll]
    cases x with
    | endMarker =>
      obtain ⟨f?, r, bounds, run, ht⟩ := hxs rng
      refine ⟨f?, r, bounds, .endMarker run, ?_⟩
      simp only [expandSymbol, ht]
      cases f? <;> rfl
    | terminal id =>
      rcases hs : gen.sample id rng with ⟨token?, r⟩
      cases token? with
      | none =>
        refine ⟨none, r, gen.sampleBounds id, .noToken xs hs, ?_⟩
        simp only [expandSymbol, hs, Option.map_none]
      | some token =>
        obtain ⟨f?, r', bounds, run, ht⟩ := hxs r
        refine ⟨f?.map (.leaf id token), r', gen.sampleBounds id ++ bounds, .token hs run, ?_⟩
        simp only [expandSymbol, hs, ht, Option.map_some]
        cases f? <;> rfl
    | nonTerminal id =>
      obtain ⟨f?, r, bounds, run, ht⟩ := hf id List.mem_cons_self rng
      rw [expandSymbol, ht]
      cases f? with
      | none => exact ⟨none, r, bounds, run.append_of_none xs, rfl⟩
      | some f =>
        obtain ⟨children, rfl, hnode⟩ := run.append_of_some
        obtain ⟨f?, r', bounds', run', ht'⟩ := hxs r
        refine ⟨f?.map (.node id children), r', bounds ++ bounds', hnode run', ?_⟩
        simp only [Option.map_some, ht', Forest.tokens, List.append_nil]
        cases f? <;> rfl

theorem expand_of_eq_nil (h : gen.candidatesOf depth id = []) :
    gen.expand (fuel + 1) depth id rng = (none, rng) := by
  rw [candidatesOf] at h
  simp only [expand, h]

theorem expand_of_ne_nil (h : gen.candidatesOf depth id ≠ []) {start : Rng}
    (draw : rng.below (gen.candidatesOf depth id).length = (i, start)) :
    gen.expand (fuel + 1) depth id rng =
      expandAll (gen.expandSymbol fuel depth) (gen.chosen depth id i) start := by
  obtain ⟨rfl, rfl⟩ := Prod.mk.inj draw
  rw [expand]
  simp only
  split
  · next hnil => exact absurd hnil h
  · rfl

theorem returns_expand (hg : gen.grammar.WellFormed) (hh : gen.heights = gen.grammar.heights)
    (hH : ∀ id h, gen.heights.getD id none = some h → h ≤ H) (hl : gen.levels H depth id ≤ fuel)
    (rng : Rng) : gen.Returns depth [.nonTerminal id] rng (gen.expand fuel depth id rng) := by
  induction fuel generalizing depth id rng with
  | zero =>
    have hstuck : gen.candidatesOf depth id = [] := by
      by_contra hne
      rcases draw : rng.below (gen.candidatesOf depth id).length with ⟨i, start⟩
      have hpos := (levels_of_chosen hg hh hH hne draw).1
      omega
    exact ⟨none, rng, [], .stuck [] rng hstuck, rfl⟩
  | succ fuel ih =>
    by_cases hne : gen.candidatesOf depth id = []
    · rw [expand_of_eq_nil hne]
      exact ⟨none, rng, [], .stuck [] rng hne, rfl⟩
    · rcases draw : rng.below (gen.candidatesOf depth id).length with ⟨i, start⟩
      rw [expand_of_ne_nil hne draw]
      obtain ⟨-, hfewer⟩ := levels_of_chosen hg hh hH hne draw
      have hinner (inner : Nat) (hm : .nonTerminal inner ∈ gen.chosen depth id i) :
          gen.levels H (depth + 1) inner ≤ fuel := by
        have hlt := hfewer inner hm
        omega
      obtain ⟨f?, r, bounds, run, ht⟩ :=
        returns_expandAll (fun inner hm ↦ ih (hinner inner hm)) start
      rw [ht]
      cases f? with
      | none => exact ⟨none, r, _, .failed [] hne draw run, rfl⟩
      | some f =>
        refine ⟨some (.node id f .nil), r, _, .node hne draw run (.nil depth r), ?_⟩
        simp only [Option.map_some, Forest.tokens, List.append_nil]

theorem Expands.follows (hg : gen.grammar.WellFormed) (hh : gen.heights = gen.grammar.heights)
    (h : gen.Expands depth xs rng f? r bounds) (hx : .endMarker ∉ xs) {f : Forest}
    (hf : f? = some f) : f.Follows gen.grammar ∧ f.roots = xs := by
  induction h generalizing f with
  | nil =>
    cases hf
    exact ⟨trivial, rfl⟩
  | endMarker => exact absurd List.mem_cons_self hx
  | noToken | stuck | failed => cases hf
  | token hs rest ih =>
    obtain ⟨others, hothers, rfl⟩ := Option.map_eq_some_iff.mp hf
    obtain ⟨hfollows, rfl⟩ := ih (mt (List.mem_cons_of_mem _) hx) hothers
    exact ⟨hfollows, rfl⟩
  | node hne draw inner rest ihi ihr =>
    obtain ⟨others, hothers, rfl⟩ := Option.map_eq_some_iff.mp hf
    obtain ⟨hfollows, rfl⟩ := ihr (mt (List.mem_cons_of_mem _) hx) hothers
    obtain ⟨hmem, -⟩ := chosen_spec hg hh hne draw
    obtain ⟨hchildren, hroots⟩ := ihi (hg.has_of_mem _ _ hmem .endMarker) rfl
    exact ⟨⟨hroots ▸ hmem, hchildren, hfollows⟩, rfl⟩

theorem Expands.height_le (hg : gen.grammar.WellFormed) (hh : gen.heights = gen.grammar.heights)
    (hH : ∀ id h, gen.heights.getD id none = some h → h ≤ H) {k : Nat}
    (h : gen.Expands depth xs rng f? r bounds)
    (hk : ∀ id, .nonTerminal id ∈ xs → gen.levels H depth id ≤ k) {f : Forest}
    (hf : f? = some f) : f.height ≤ k := by
  induction h generalizing f k with
  | nil =>
    cases hf
    exact Nat.zero_le k
  | endMarker rest ih => exact ih (fun id hid ↦ hk id (List.mem_cons_of_mem _ hid)) hf
  | noToken | stuck | failed => cases hf
  | token hs rest ih =>
    obtain ⟨others, hothers, rfl⟩ := Option.map_eq_some_iff.mp hf
    have hheight : others.height ≤ k := ih (fun id hid ↦ hk id (List.mem_cons_of_mem _ hid)) hothers
    exact hheight
  | @node depth id i xs rng start r r' children f? bounds bounds' hne draw inner rest ihi ihr =>
    obtain ⟨others, hothers, rfl⟩ := Option.map_eq_some_iff.mp hf
    obtain ⟨hpos, hfewer⟩ := levels_of_chosen hg hh hH hne draw
    have hlevels := hk id List.mem_cons_self
    have hchildren : children.height ≤ gen.levels H depth id - 1 := by
      refine ihi (fun inner hinner ↦ ?_) rfl
      have hlt := hfewer inner hinner
      omega
    have hrest := ihr (fun id hid ↦ hk id (List.mem_cons_of_mem _ hid)) hothers
    exact max_le (by omega) hrest

def CanExpand (gen : Generator) : Symbol → Prop
  | .nonTerminal id => (gen.heights.getD id none).isSome = true
  | .terminal id => ∀ rng, (gen.sample id rng).1.isSome = true
  | .endMarker => True

theorem canExpand_of_mem_chosen (hg : gen.grammar.WellFormed)
    (hh : gen.heights = gen.grammar.heights)
    (hs : ∀ id < gen.grammar.terminals.size, gen.CanExpand (.terminal id))
    (hne : gen.candidatesOf depth id ≠ []) {start : Rng}
    (draw : rng.below (gen.candidatesOf depth id).length = (i, start)) :
    ∀ x ∈ gen.chosen depth id i, gen.CanExpand x := by
  intro x hx
  obtain ⟨hmem, m, hm, -⟩ := chosen_spec hg hh hne draw
  cases x with
  | endMarker => trivial
  | terminal id => exact hs id (hg.has_of_mem _ _ hmem _ hx)
  | nonTerminal id =>
    obtain ⟨k, -, hk⟩ := Grammar.exists_height_of_mem hm hx
    rw [CanExpand, hk, Option.isSome_some]

theorem Expands.isSome (hg : gen.grammar.WellFormed) (hh : gen.heights = gen.grammar.heights)
    (hs : ∀ id < gen.grammar.terminals.size, gen.CanExpand (.terminal id))
    (h : gen.Expands depth xs rng f? r bounds) (hx : ∀ x ∈ xs, gen.CanExpand x) :
    f?.isSome = true := by
  induction h with
  | nil => rfl
  | endMarker rest ih => exact ih fun x hm ↦ hx x (List.mem_cons_of_mem _ hm)
  | @noToken depth id rng r xs hnone =>
    have hsome : (gen.sample id rng).1.isSome = true := hx _ List.mem_cons_self rng
    rw [hnone] at hsome
    cases hsome
  | stuck xs rng hnil =>
    have hid := hx _ List.mem_cons_self
    exact absurd hnil (candidatesOf_ne_nil hg hh hid)
  | token hsample rest ih =>
    rw [Option.isSome_map]
    exact ih fun x hm ↦ hx x (List.mem_cons_of_mem _ hm)
  | failed xs hne draw inner ih => cases ih (canExpand_of_mem_chosen hg hh hs hne draw)
  | node hne draw inner rest ihi ihr =>
    rw [Option.isSome_map]
    exact ihr fun x hm ↦ hx x (List.mem_cons_of_mem _ hm)

theorem isSome_sample (hid : id < gen.grammar.terminals.size)
    (hp : ∀ p, gen.grammar.terminals[id]? = some (.pattern p) →
      gen.registered id ≠ [] ∨ ∃ token ∈ fallbackSamples, p.accepts token = true) :
    (gen.sample id rng).1.isSome = true := by
  unfold sample
  rw [← registered]
  split
  · next hnone =>
    rw [Array.getElem?_eq_getElem hid] at hp ⊢
    cases ht : gen.grammar.terminals[id] with
    | literal text => rfl
    | pattern p =>
      rcases hp p (congrArg some ht) with hne | htoken
      · exact absurd hnone hne
      · exact List.find?_isSome.mpr htoken
  · next tokens hne =>
    have hlt := below_lt rng (List.length_pos_of_ne_nil hne)
    simp only [List.getElem?_eq_getElem hlt, Option.isSome_some]

def placed? (g : Grammar) (s : String × String) : Option (Nat × String) :=
  match g.symbol? s.1 with
  | some (.terminal id) => some (id, s.2)
  | _ => none

theorem withSamples_eq (samples : List (String × String)) : gen.withSamples samples =
    { gen with samples := gen.samples ++ samples.filterMap (placed? gen.grammar) } := by
  unfold withSamples
  induction samples generalizing gen with
  | nil => simp only [List.foldl_nil, List.filterMap_nil, List.append_nil]
  | cons s samples ih =>
    rw [List.foldl_cons, ih, grammar_withSample]
    have hplaced : gen.withSample s.1 s.2 =
        { gen with samples := gen.samples ++ (placed? gen.grammar s).toList } := by
      unfold withSample placed?
      cases gen.grammar.symbol? s.1 with
      | none => simp
      | some x => cases x <;> simp
    rw [hplaced]
    cases hs : placed? gen.grammar s with
    | none => rw [List.filterMap_cons_none hs, Option.toList_none, List.append_nil]
    | some sample =>
      rw [List.filterMap_cons_some hs, Option.toList_some, List.append_assoc, List.singleton_append]

theorem registered_withSamples_ne_nil {samples : List (String × String)} {s : String × String}
    (hs : s ∈ samples) (hid : gen.grammar.symbol? s.1 = some (.terminal id)) :
    (gen.withSamples samples).registered id ≠ [] := by
  have hplaced : placed? gen.grammar s = some (id, s.2) := by
    rw [placed?, hid]
  have hm : (id, s.2) ∈ (gen.withSamples samples).samples := by
    rw [withSamples_eq]
    exact List.mem_append_right _ (List.mem_filterMap.mpr ⟨s, hs, hplaced⟩)
  exact List.ne_nil_of_mem (List.mem_filterMap.mpr ⟨_, hm, if_pos rfl⟩)

theorem le_size_of_heights (hg : gen.grammar.WellFormed) (hh : gen.heights = gen.grammar.heights)
    (id h : Nat) (hheight : gen.heights.getD id none = some h) : h ≤ gen.grammar.rules.size := by
  rw [hh, Grammar.getD_heights_iff hg] at hheight
  exact Grammar.le_size_of_isLeast hg hheight

theorem returns_sentence (hg : gen.grammar.WellFormed) (hh : gen.heights = gen.grammar.heights)
    (rng : Rng) :
    gen.Returns 0 [.nonTerminal gen.grammar.entryPoint] rng (gen.sentence rng) := by
  have hH := le_size_of_heights hg hh
  refine returns_expand hg hh hH ?_ rng
  unfold levels fuel
  cases hheight : gen.heights.getD gen.grammar.entryPoint none with
  | none => split_ifs <;> simp
  | some h =>
    have hle := hH _ h hheight
    rw [Option.getD_some]
    split_ifs <;> omega

/-- The tree of a sentence is hardly higher than the depth up to which it is free to grow. -/
theorem Expands.exists_isGreatest (hg : gen.grammar.WellFormed)
    (hh : gen.heights = gen.grammar.heights) {f : Forest}
    (h : gen.Expands 0 [.nonTerminal id] rng (some f) r bounds) :
    f.Follows gen.grammar ∧ f.roots = [.nonTerminal id] ∧
      ∃ H, IsGreatest gen.grammar.leastHeights H ∧ f.height ≤ gen.maxDepth + H := by
  obtain ⟨hfollows, hroots⟩ := h.follows hg hh (by simp) rfl
  obtain ⟨H, hgreatest⟩ := Grammar.exists_isGreatest_leastHeights hg ⟨_, f, hfollows, hroots, rfl⟩
  have hH (id h : Nat) (hheight : gen.heights.getD id none = some h) : h ≤ H := by
    rw [hh, Grammar.getD_heights_iff hg] at hheight
    exact hgreatest.2 ⟨id, hheight⟩
  refine ⟨hfollows, hroots, H, hgreatest, h.height_le hg hh hH (fun id _ ↦ ?_) rfl⟩
  unfold levels
  cases hheight : gen.heights.getD id none with
  | none => split_ifs <;> simp
  | some h =>
    have hle := hH id h hheight
    rw [Option.getD_some]
    split_ifs <;> omega

theorem isSome_sentence_iff (hg : gen.grammar.WellFormed) (hh : gen.heights = gen.grammar.heights)
    (hs : ∀ id < gen.grammar.terminals.size, gen.CanExpand (.terminal id)) (rng : Rng) :
    (gen.sentence rng).1.isSome = true ↔
      ∃ w : List Nat, gen.grammar.Derives [.nonTerminal gen.grammar.entryPoint]
        (w.map .terminal) := by
  obtain ⟨f?, r, bounds, run, ht⟩ := returns_sentence hg hh rng
  rw [ht, Option.isSome_map]
  constructor
  · intro hf
    obtain ⟨f, rfl⟩ := Option.isSome_iff_exists.mp hf
    have hx : .endMarker ∉ [Symbol.nonTerminal gen.grammar.entryPoint] := by simp
    obtain ⟨hfollows, hroots⟩ := run.follows hg hh hx rfl
    exact ⟨f.terminals, Forest.derives_iff.mpr ⟨f, hfollows, hroots, rfl⟩⟩
  · intro hw
    refine run.isSome hg hh hs (List.forall_mem_singleton.mpr ?_)
    rw [CanExpand, hh]
    exact (Grammar.isSome_heights_iff hg).mpr hw

theorem length_sentences {found : Bool} (h : ∀ rng, (gen.sentence rng).1.isSome = found) (n : Nat)
    (rng : Rng) : (gen.sentences n rng).length = if found then n else 0 := by
  induction n generalizing rng with
  | zero => cases found <;> rfl
  | succ n ih =>
    rcases hsentence : gen.sentence rng with ⟨tokens?, r⟩
    have hfound := h rng
    have hn := ih r
    rw [sentences, hsentence]
    rw [hsentence] at hfound
    subst hfound
    cases tokens? with
    | none => exact hn
    | some tokens => exact congrArg (· + 1) hn

end Sentence.Generator

open TopDown.Sentence TopDown.Sentence.Generator

/--
Every call of the generator ends, with one result, and takes random numbers below positive bounds
only. A sentence has a tree that is at most as much higher than the greatest depth as the highest of
the lowest trees of rules. With tokens for all patterns there are sentences just if the entry point
derives terminals, and then as many as are asked for.
-/
theorem generation_ends_with_bounded_trees {b : GrammarBuilder} {g : Grammar} (hb : b.build = .ok g)
    (maxDepth : Nat) (seed : Option UInt64) (samples : List (String × String)) {gen : Generator}
    (hgen : gen = Generator.withSamples { grammar := g, maxDepth, seed } samples) :
    (∀ depth id rng, ∃ f? r bounds, gen.Expands depth [.nonTerminal id] rng f? r bounds ∧
      (∀ n ∈ bounds, 0 < n) ∧ ∀ f?' r' bounds',
        gen.Expands depth [.nonTerminal id] rng f?' r' bounds' →
          f?' = f? ∧ r' = r ∧ bounds' = bounds) ∧
    (∀ rng, ∃ f? r bounds, gen.Expands 0 [.nonTerminal g.entryPoint] rng f? r bounds ∧
      gen.sentence rng = (f?.map Forest.tokens, r) ∧
      ∀ f, f? = some f → f.Follows g ∧ f.roots = [.nonTerminal g.entryPoint] ∧
        ∃ H, IsGreatest g.leastHeights H ∧ f.height ≤ maxDepth + H) ∧
    ((∀ id p, g.terminals[id]? = some (.pattern p) →
        (∃ s ∈ samples, g.symbol? s.1 = some (.terminal id)) ∨
          ∃ token ∈ fallbackSamples, p.accepts token = true) →
      (gen.generate.isSome = true ↔
        ∃ w : List Nat, g.Derives [.nonTerminal g.entryPoint] (w.map .terminal)) ∧
      ∀ n, (gen.generateMany n).length = if gen.generate.isSome then n else 0) := by
  have hwell := GrammarBuilder.build_wellFormed hb
  have hsamples : withSamples { grammar := g, maxDepth, seed } samples = _ := withSamples_eq samples
  have hgrammar : gen.grammar = g := by rw [hgen, hsamples]
  have hheights : gen.heights = gen.grammar.heights := by rw [hgen, hsamples]
  have hdepth : gen.maxDepth = maxDepth := by rw [hgen, hsamples]
  subst hgrammar hdepth
  refine ⟨fun depth id rng ↦ ?_, fun rng ↦ ?_, fun hpatterns ↦ ?_⟩
  · obtain ⟨f?, r, bounds, run, -⟩ :=
      returns_expand hwell hheights (le_size_of_heights hwell hheights) le_rfl rng
    exact ⟨f?, r, bounds, run, run.bounds_pos, fun _ _ _ run' ↦ run.unique run'⟩
  · obtain ⟨f?, r, bounds, run, ht⟩ := returns_sentence hwell hheights rng
    refine ⟨f?, r, bounds, run, ht, fun f hf ↦ ?_⟩
    subst hf
    exact run.exists_isGreatest hwell hheights
  · have hs : ∀ id < gen.grammar.terminals.size, gen.CanExpand (.terminal id) := by
      intro id hid rng
      refine isSome_sample hid fun p hp ↦ ?_
      rcases hpatterns id p hp with hgiven | hfallback
      · obtain ⟨s, hs, hsymbol⟩ := hgiven
        left
        rw [hgen]
        exact registered_withSamples_ne_nil hs hsymbol
      · exact .inr hfallback
    have hsome := isSome_sentence_iff hwell hheights hs
    refine ⟨hsome _, fun n ↦ length_sentences (fun rng ↦ ?_) n _⟩
    exact Bool.eq_iff_iff.mpr ((hsome rng).trans (hsome _).symm)

def GrammarBuilder.appending : GrammarBuilder :=
  (((((GrammarBuilder.withEntryPoint {} "S").withRule "S" [["S", "[0-9]+"], ["a"], ["L"]]).withRule
    "L" [["L", "b"]]).withRule "U" [["a"]]).withPattern "[0-9]+").allowingLeftRecursion

def Grammar.appending : Grammar where
  rules := #[⟨"S", [[.nonTerminal 0, .terminal 0], [.terminal 1], [.nonTerminal 1]]⟩,
    ⟨"L", [[.nonTerminal 1, .terminal 2]]⟩, ⟨"U", [[.terminal 1]]⟩]
  terminals := #[.pattern ⟨"[0-9]+", .seq (.look .textStart (.property .word))
      (.seq (.repetition (.set (.union .empty (.range '0' '9'))) ⟨1, none, true⟩)
        (.look .textEnd (.property .word)))⟩,
    .literal "a", .literal "b"]
  entryPoint := 0
  endMarker := defaultEndMarker
  allowLeftRecursion := true
  warnings := [.leftRecursion ["S", "S"], .leftRecursion ["L", "L"], .unreachableRule "U"]

theorem generation_ends_with_bounded_trees_appending :
    GrammarBuilder.appending.build = .ok .appending ∧
    ∃ gen : Generator, gen = Generator.withSamples ⟨.appending, 2, some 4,
        Grammar.appending.heights, []⟩ [("[0-9]+", "777")] ∧
      gen.generate = some ["a", "777", "777"] ∧ (gen.generateMany 5).length = 5 ∧
      ∃ f r bounds, gen.Expands 0 [.nonTerminal 0] (.ofSeed (some 4)) (some f) r bounds ∧
        f.tokens = ["a", "777", "777"] ∧
        ∃ H, IsGreatest Grammar.appending.leastHeights H ∧ f.height ≤ 2 + H := by
  have hb : GrammarBuilder.appending.build = .ok .appending := by decide +kernel
  have hdigits : Grammar.appending.symbol? "[0-9]+" = some (.terminal 0) := by decide +kernel
  refine ⟨hb, _, rfl, ?_⟩
  obtain ⟨-, hsentence, hmany⟩ :=
    generation_ends_with_bounded_trees hb 2 (some 4) [("[0-9]+", "777")] rfl
  have ht : (Generator.withSamples ⟨.appending, 2, some 4, Grammar.appending.heights, []⟩
      [("[0-9]+", "777")]).generate = some ["a", "777", "777"] := by decide +kernel
  have hpatterns (id : Nat) (p : Pattern)
      (hp : Grammar.appending.terminals[id]? = some (.pattern p)) :
      ∃ s ∈ [("[0-9]+", "777")], Grammar.appending.symbol? s.1 = some (.terminal id) := by
    rcases id with _ | _ | _ | id
    · exact ⟨_, List.mem_cons_self, hdigits⟩
    · cases hp
    · cases hp
    · cases hp
  obtain ⟨-, hlength⟩ := hmany fun id p hp ↦ .inl (hpatterns id p hp)
  refine ⟨ht, ?_, ?_⟩
  · rw [hlength, ht]
    rfl
  · obtain ⟨f?, r, bounds, run, hf, htree⟩ := hsentence (.ofSeed (some 4))
    rw [generate, withSamples_eq] at ht
    rw [withSamples_eq] at hf
    obtain ⟨f, rfl, htokens⟩ := Option.map_eq_some_iff.mp ((congrArg Prod.fst hf).symm.trans ht)
    obtain ⟨-, -, H, hgreatest, hheight⟩ := htree f rfl
    exact ⟨f, r, bounds, run, htokens, H, hgreatest, hheight⟩

end TopDown
