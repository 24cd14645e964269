import TopDown.Proofs.FrontDerivation
import TopDown.Proofs.LeftRecursiveCycle

namespace TopDown

open Relation TopDown.Symbol

namespace Grammar

open LeftRecursion

variable {g : Grammar} {n id next : Nat} {xs ys : List Symbol}

theorem allKnown_of_replays {m : List Symbol} {k : List Nat} (h : Replays g m k xs [])
    (hm : terminalsOf m = []) : allKnown g.nullable xs = true := by
  generalize hy : ([] : List Symbol) = ys at h
  induction h with
  | nil => exact hy ▸ rfl
  | terminal id rest ih => cases hm
  | nonTerminal ha rest ih =>
    have hrest := ih hm hy
    rw [allKnown_append, Bool.and_eq_true] at hrest
    rw [allKnown_cons_nonTerminal, Bool.and_eq_true]
    exact ⟨isKnown_nullable_of_mem (List.mem_of_getElem? ha) hrest.1, hrest.2⟩

theorem allKnown_nullable_iff : allKnown g.nullable xs = true ↔ g.Derives xs [] := by
  constructor
  · intro hx
    obtain ⟨n, hn⟩ := exists_unfolds_of_allKnown (fun _ ↦ exists_unfolds_of_isKnown) hx
    obtain ⟨m, k, hr, hm, -⟩ := hn.exists_replays
    exact derives_iff_exists_replays (w := []).mpr ⟨m, k, hr, hm⟩
  · intro hx
    obtain ⟨m, k, hr, hm⟩ := derives_iff_exists_replays (w := []).mp hx
    exact allKnown_of_replays hr hm

theorem allKnown_nullable_iff_forall :
    allKnown g.nullable xs = true ↔ ∀ x ∈ xs, x.isNonTerminal = true ∧ g.Derives [x] [] := by
  rw [allKnown, List.all_eq_true]
  refine forall₂_congr fun x _ ↦ ?_
  rw [← allKnown_nullable_iff]
  cases x with
  | nonTerminal id => simp [allKnown, Symbol.isNonTerminal]
  | terminal | endMarker => simp [Symbol.isNonTerminal]

def Leads (g : Grammar) (id next : Nat) : Prop :=
  ∃ before after, before ++ .nonTerminal next :: after ∈ g.alternativesOf id ∧
    ∀ x ∈ before, x.isNonTerminal = true ∧ g.Derives [x] []

theorem leftCorner_iff_leads : g.LeftCorner id next ↔ g.Leads id next := by
  simp only [leftCorner_iff, mem_leadingNonTerminals_iff, allKnown_nullable_iff_forall]
  constructor
  · rintro ⟨alternative, ha, before, after, rfl, hb⟩
    exact ⟨before, after, ha, hb⟩
  · rintro ⟨before, after, ha, hb⟩
    exact ⟨_, ha, before, after, rfl, hb⟩

theorem Unfolds.exists_leftCorners (h : g.Unfolds n xs (.nonTerminal next :: ys)) :
    ∃ first ∈ leadingNonTerminals g.nullable xs, ReflTransGen g.LeftCorner first next := by
  generalize hz : Symbol.nonTerminal next :: ys = zs at h
  induction h with
  | refl =>
    subst hz
    exact ⟨next, List.mem_cons_self, .refl⟩
  | @step n id alternative xs zs ha rest ih =>
    obtain ⟨first, hf, hc⟩ := ih hz
    rw [leadingNonTerminals_append, List.mem_append] at hf
    rw [leadingNonTerminals]
    rcases hf with hf | hf
    · exact ⟨id, List.mem_cons_self, hc.head (leftCorner_iff.mpr ⟨alternative, ha, hf⟩)⟩
    · by_cases hk : allKnown g.nullable alternative = true
      · rw [if_pos hk] at hf
        rw [if_pos (isKnown_nullable_of_mem ha hk)]
        exact ⟨first, List.mem_cons_of_mem _ hf, hc⟩
      · rw [if_neg hk] at hf
        cases hf

theorem Unfolds.reflTransGen (h : g.Unfolds n [.nonTerminal id] (.nonTerminal next :: ys)) :
    ReflTransGen g.LeftCorner id next := by
  obtain ⟨first, hf, hc⟩ := h.exists_leftCorners
  simp only [leadingNonTerminals, ite_self, List.mem_singleton] at hf
  exact hf ▸ hc

theorem Unfolds.transGen (hn : n ≠ 0)
    (h : g.Unfolds n [.nonTerminal id] (.nonTerminal next :: ys)) :
    TransGen g.LeftCorner id next := by
  cases h with
  | refl => exact absurd rfl hn
  | step ha rest =>
    rw [List.append_nil] at rest
    obtain ⟨first, hf, hc⟩ := rest.exists_leftCorners
    exact .head' (leftCorner_iff.mpr ⟨_, ha, hf⟩) hc

theorem Unfolds.exists_leftmostDerivation (h : g.Unfolds n xs ys) :
    ∃ d, d.length = n ∧ g.LeftmostDerivation d xs ys := by
  induction h with
  | refl xs => exact ⟨[], rfl, .refl xs⟩
  | step ha rest ih =>
    obtain ⟨d, hd, hl⟩ := ih
    obtain ⟨i, hi⟩ := List.mem_iff_getElem?.mp ha
    exact ⟨_ :: d, by rw [List.length_cons, hd], .step [] hi hl⟩

/-- Whether a leftmost derivation can bring a non-terminal to the front. -/
def LeftReaches (g : Grammar) (id next : Nat) : Prop :=
  ∃ d rest, g.LeftmostDerivation d [.nonTerminal id] (.nonTerminal next :: rest)

/-- Whether a non-terminal derives itself, and anything behind it, in one or more leftmost steps. -/
def LeftRecursive (g : Grammar) (id : Nat) : Prop :=
  ∃ d rest, d ≠ [] ∧ g.LeftmostDerivation d [.nonTerminal id] (.nonTerminal id :: rest)

theorem leftReaches_iff : g.LeftReaches id next ↔ ReflTransGen g.LeftCorner id next := by
  constructor
  · rintro ⟨d, rest, hd⟩
    exact hd.unfolds.reflTransGen
  · intro h
    obtain ⟨n, rest, hn⟩ := exists_unfolds_of_leftCorners h
    obtain ⟨d, -, hd⟩ := hn.exists_leftmostDerivation
    exact ⟨d, rest, hd⟩

theorem leftRecursive_iff : g.LeftRecursive id ↔ TransGen g.LeftCorner id id := by
  constructor
  · rintro ⟨d, rest, hne, hd⟩
    exact hd.unfolds.transGen (mt List.length_eq_zero_iff.mp hne)
  · intro h
    obtain ⟨next, hnext, hback⟩ := TransGen.head'_iff.mp h
    obtain ⟨n, rest, hn⟩ := hnext.exists_unfolds
    obtain ⟨m, more, hm⟩ := exists_unfolds_of_leftCorners hback
    obtain ⟨d, hlen, hd⟩ := (hn.trans (hm.frame rest)).exists_leftmostDerivation
    refine ⟨d, more ++ rest, ?_, hd⟩
    rintro rfl
    rw [List.length_nil] at hlen
    omega

def LeftMutual (g : Grammar) (id next : Nat) : Prop :=
  ReflTransGen g.LeftCorner id next ∧ ReflTransGen g.LeftCorner next id

theorem transGen_followsIn (h : TransGen g.LeftCorner id next)
    (hback : ReflTransGen g.LeftCorner next id) :
    TransGen (Function.swap (FollowsIn (g.LeftMutual id) (g.leftCorners g.nullable))) id next := by
  induction h with
  | single hc => exact .single ⟨hc, .single hc, hback⟩
  | tail h hc ih => exact (ih (hback.head hc)).tail ⟨hc, h.to_reflTransGen.tail hc, hback⟩

theorem exists_mem_cycle_of_leftRecursive (h : g.LeftRecursive id) :
    ∃ cycle ∈ g.leftRecursiveCycles, ∃ next ∈ cycle,
      g.LeftReaches id next ∧ g.LeftReaches next id := by
  simp only [leftReaches_iff]
  by_contra hnone
  have hwf : WellFounded (FollowsIn (g.LeftMutual id) (g.leftCorners g.nullable)) :=
    wellFounded_of_avoids fun cycle hc next hn hmutual ↦ hnone ⟨cycle, hc, next, hn, hmutual⟩
  have hloop := transGen_followsIn (leftRecursive_iff.mp h) .refl
  rw [transGen_swap] at hloop
  exact hwf.transGen.asymmetric id id hloop hloop

theorem exists_leftRecursive_of_mem {cycle : List Nat} (h : cycle ∈ g.leftRecursiveCycles) :
    ∃ id ∈ cycle, g.LeftRecursive id := by
  obtain ⟨id, hid, hloop⟩ := (isSimpleCycle_of_mem_leftRecursiveCycles h).exists_transGen
  exact ⟨id, hid, leftRecursive_iff.mpr hloop⟩

theorem leftRecursiveCycles_eq_nil_iff_forall :
    g.leftRecursiveCycles = [] ↔ ∀ id, ¬ g.LeftRecursive id := by
  constructor
  · intro hnil id hid
    obtain ⟨cycle, hc, -⟩ := exists_mem_cycle_of_leftRecursive hid
    rw [hnil] at hc
    cases hc
  · intro hnone
    refine List.eq_nil_iff_forall_not_mem.mpr fun cycle hc ↦ ?_
    obtain ⟨id, -, hid⟩ := exists_leftRecursive_of_mem hc
    exact hnone id hid

end Grammar

open Grammar

variable {g : Grammar} {b : GrammarBuilder}

theorem GrammarBuilder.build_eq_of_draft? (hd : b.draft? = .ok g)
    (hb : b.allowLeftRecursion = false) :
    b.build = if g.leftRecursiveCycles = [] then
        .ok { g with warnings := g.warnings ++
          g.unreachableRules.map fun id ↦ .unreachableRule (g.ruleName id) }
      else .error (.leftRecursion (g.leftRecursiveCycles.map (·.map g.ruleName))) := by
  rw [build_eq_bind_validate, hd, hb]
  unfold Grammar.validate
  by_cases hnil : g.leftRecursiveCycles = []
  · simp [hnil, bind, Except.bind]
  · simp [hnil, bind, Except.bind]

/--
What the search returns are simple cycles of non-terminals, each of which leads to the next one, and
every left recursive non-terminal is left reachable to and from one on a cycle. So there is a cycle
just when there is left recursion, and this is then what a grammar is refused for, unless it is
allowed.
-/
theorem leftRecursiveCycles_exact (g : Grammar) :
    (∀ cycle ∈ g.leftRecursiveCycles, cycle.IsChain g.Leads ∧ cycle.dropLast.Nodup ∧
      2 ≤ cycle.length ∧ cycle.getLast? = cycle.head?) ∧
    (∀ id, g.LeftRecursive id → ∃ cycle ∈ g.leftRecursiveCycles, ∃ next ∈ cycle,
      g.LeftReaches id next ∧ g.LeftReaches next id) ∧
    (g.leftRecursiveCycles = [] ↔ ∀ id, ¬ g.LeftRecursive id) ∧
    ∀ b : GrammarBuilder, b.draft? = .ok g → b.allowLeftRecursion = false →
      ((∃ cycles, b.build = .error (.leftRecursion cycles)) ↔ ∃ id, g.LeftRecursive id) ∧
      ∀ e, b.build = .error e →
        e = .leftRecursion (g.leftRecursiveCycles.map (·.map g.ruleName)) := by
  refine ⟨fun cycle hc ↦ ?_, fun _ ↦ exists_mem_cycle_of_leftRecursive,
    leftRecursiveCycles_eq_nil_iff_forall, fun b hd hb ↦ ?_⟩
  · obtain ⟨hchain, hnodup, hlen, hlast⟩ := isSimpleCycle_of_mem_leftRecursiveCycles hc
    exact ⟨hchain.imp fun _ _ ↦ leftCorner_iff_leads.mp, hnodup, hlen, hlast⟩
  · have hnil := g.leftRecursiveCycles_eq_nil_iff_forall
    rw [b.build_eq_of_draft? hd hb]
    by_cases hempty : g.leftRecursiveCycles = []
    · rw [if_pos hempty]
      have hnone : ¬ ∃ id, g.LeftRecursive id := not_exists.mpr (hnil.mp hempty)
      exact ⟨⟨nofun, fun h ↦ absurd h hnone⟩, nofun⟩
    · rw [if_neg hempty]
      have hsome : ∃ id, g.LeftRecursive id := not_forall_not.mp (mt hnil.mpr hempty)
      exact ⟨⟨fun _ ↦ hsome, fun _ ↦ ⟨_, rfl⟩⟩, fun _ he ↦ (Except.error.inj he).symm⟩

/-- `C` is on no cycle that is found, as the search has dealt with `B` when it comes to `C`. -/
def GrammarBuilder.sharedRecursion : GrammarBuilder :=
  ((((GrammarBuilder.withEntryPoint {} "A").withRule "A" [["B"], ["C"]]).withRule "B"
    [["N", "A", "x"], ["b"]]).withRule "C" [["B", "y"]]).withRule "N" [["n"], []]

def Grammar.sharedRecursion : Grammar where
  rules := #[⟨"A", [[.nonTerminal 1], [.nonTerminal 2]]⟩,
    ⟨"B", [[.nonTerminal 3, .nonTerminal 0, .terminal 0], [.terminal 1]]⟩,
    ⟨"C", [[.nonTerminal 1, .terminal 2]]⟩, ⟨"N", [[.terminal 3], []]⟩]
  terminals := #[.literal "x", .literal "b", .literal "y", .literal "n"]
  entryPoint := 0
  endMarker := defaultEndMarker
  allowLeftRecursion := false
  warnings := []

theorem leftRecursiveCycles_exact_sharedRecursion :
    GrammarBuilder.sharedRecursion.draft? = .ok .sharedRecursion ∧
    Grammar.sharedRecursion.leftRecursiveCycles = [[0, 1, 0]] ∧
    [0, 1, 0].IsChain Grammar.sharedRecursion.Leads ∧
    Grammar.sharedRecursion.LeftRecursive 2 ∧
    (∃ next ∈ [0, 1, 0], Grammar.sharedRecursion.LeftReaches 2 next ∧
      Grammar.sharedRecursion.LeftReaches next 2) ∧
    GrammarBuilder.sharedRecursion.build = .error (.leftRecursion [["A", "B", "A"]]) := by
  have hd : GrammarBuilder.sharedRecursion.draft? = .ok .sharedRecursion := by decide +kernel
  have hc : Grammar.sharedRecursion.leftRecursiveCycles = [[0, 1, 0]] := by decide +kernel
  have hrec : Grammar.sharedRecursion.LeftRecursive 2 := by
    refine ⟨[("C", 0), ("B", 0), ("N", 1), ("A", 1)], [.terminal 0, .terminal 2], by decide, ?_⟩
    exact @LeftmostDerivation.step _ [] 2 0 _ [] _ _ rfl
      (@LeftmostDerivation.step _ [] 1 0 _ [.terminal 2] _ _ rfl
        (@LeftmostDerivation.step _ [] 3 1 [] _ _ _ rfl
          (@LeftmostDerivation.step _ [] 0 1 _ [.terminal 0, .terminal 2] _ _ rfl (.refl _))))
  obtain ⟨hcycle, hmutual, -, hbuild⟩ := leftRecursiveCycles_exact .sharedRecursion
  rw [hc] at hcycle hmutual
  obtain ⟨hiff, herror⟩ := hbuild .sharedRecursion hd rfl
  obtain ⟨cycles, he⟩ := hiff.mpr ⟨2, hrec⟩
  refine ⟨hd, hc, (hcycle _ List.mem_cons_self).1, hrec, ?_, ?_⟩
  · obtain ⟨cycle, hm, next, hnext, hreach⟩ := hmutual 2 hrec
    exact ⟨next, List.mem_singleton.mp hm ▸ hnext, hreach⟩
  · rw [he, herror _ he, hc]
    decide

end TopDown
