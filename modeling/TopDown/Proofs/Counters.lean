import Mathlib.Algebra.GroupWithZero.Nat
import Mathlib.Order.Bounds.Defs
import TopDown.Parsing.Metrics
import TopDown.Proofs.RecordedTrace
import TopDown.Proofs.SearchPath

namespace TopDown

open TopDown.Symbol

variable {g : Grammar} {s : TokenStream} {start : Nat}

/-- How many mismatches no other alternative has been tried for. -/
def Mode.unanswered : Mode → Nat
  | .matching | .success => 0
  | .backtrack | .fail => 1

namespace Grammar

def laterAlternatives (g : Grammar) (id : Nat) : Nat :=
  (g.alternativesOf id).length - 1

/-- The number of alternatives that are left for the symbols dealt with, both latest first. -/
def untried (g : Grammar) (matched : List Symbol) (history : List Nat) : Nat :=
  ((turnsOf matched history).map fun
    | (.nonTerminal id, i) => g.laterAlternatives id - i
    | (.terminal _, _) | (.endMarker, _) => 0).sum

theorem untried_nonTerminal (id i : Nat) (matched : List Symbol) (history : List Nat) :
    g.untried (.nonTerminal id :: matched) (i :: history) =
      g.laterAlternatives id - i + g.untried matched history := rfl

theorem untried_terminal (id : Nat) (matched : List Symbol) (history : List Nat) :
    g.untried (.terminal id :: matched) history = g.untried matched history :=
  Nat.zero_add _

theorem laterAlternatives_eq_of_last {id i : Nat} {alternative : List Symbol}
    (current : (g.alternativesOf id)[i]? = some alternative)
    (last : (g.alternativesOf id)[i + 1]? = none) : g.laterAlternatives id = i := by
  have hlt := (List.getElem?_eq_some_iff.mp current).1
  have hle := List.getElem?_eq_none_iff.mp last
  unfold laterAlternatives
  omega

end Grammar

/-- What counts of transitions say about the configuration that these lead to. -/
structure Metrics.Tallies (m : Metrics) (c : Configuration) : Prop where
  steps_eq : m.steps = m.expansions + m.consumed + m.mismatches + m.retreats +
    m.alternativesTried + m.escalations + c.isFinal.toNat
  consumed_eq : m.consumed = m.retreats + c.cursor
  expansions_eq : m.expansions = m.escalations + c.history.size
  mismatches_eq : m.mismatches = m.alternativesTried + c.mode.unanswered

namespace Configuration

variable {c d : Configuration} {m : Metrics}

def expanded? (c : Configuration) : Option Nat :=
  if c.transition = .expansion then c.matched.top?.bind nonTerminal? else none

theorem Step.tallies (h : Step g s c d) (hc : m.Tallies c) : (m.record d).Tallies d := by
  obtain ⟨hsteps, hconsumed, hexpansions, hmismatches⟩ := hc
  cases h <;>
    simp only [isFinal, Mode.isFinal, Mode.unanswered, Bool.toNat_false, Stack.size_push]
      at hsteps hconsumed hexpansions hmismatches <;>
    constructor <;>
    simp only [Metrics.record, Metrics.count, isFinal, Mode.isFinal, Mode.unanswered,
      Bool.toNat_false, Bool.toNat_true, Stack.size_push] <;>
    omega

theorem Step.untried (h : Step g s c d) :
    (m.record d).alternativesTried + g.untried d.matched.values d.history.values =
      m.alternativesTried + g.untried c.matched.values c.history.values +
        (d.expanded?.map g.laterAlternatives).getD 0 := by
  cases h with
  | @expansion _ _ _ _ _ _ id =>
    have hid : (some id).bind (fun id ↦ nonTerminal? (.nonTerminal id)) = some id := rfl
    simp only [Metrics.record, Metrics.count, expanded?, Stack.values_push, Stack.top?_push,
      Grammar.untried_nonTerminal, if_true]
    change _ = _ + g.laterAlternatives id
    omega
  | consume => simp [Metrics.record, Metrics.count, expanded?, Grammar.untried_terminal]
  | retreat => simp [Metrics.record, Metrics.count, expanded?, Grammar.untried_terminal]
  | acceptance | mismatch | earlyEnd | reject => rfl
  | @nextAlternative _ _ _ _ _ _ id i _ _ current other =>
    have hlt := (List.getElem?_eq_some_iff.mp other).1
    have hlater : g.laterAlternatives id = (g.alternativesOf id).length - 1 := rfl
    simp only [Metrics.record, Metrics.count, expanded?, Stack.values_push,
      Grammar.untried_nonTerminal, reduceCtorEq, if_false, Option.map_none, Option.getD_none]
    omega
  | escalate current last inner =>
    have hlast := Grammar.laterAlternatives_eq_of_last current last
    simp [Metrics.record, Metrics.count, expanded?, Grammar.untried_nonTerminal, hlast]

/-- The parser rejects with the last choice for the start symbol, and nothing else dealt with. -/
theorem Step.of_fail (h : Step g s c d) (hc : c.Invariant g s start) (hd : d.mode = .fail) :
    d.matched.values = [.nonTerminal start] ∧ d.cursor = 0 ∧
      d.history.values = [(g.alternativesOf start).length - 1] ∧
      ∃ alternative, (g.alternativesOf start).getLast? = some alternative ∧
        d.pending.values = alternative ++ [.endMarker] := by
  cases h with
  | @reject cursor pending history _ _ id i alternative current last =>
    obtain ⟨hr, -, hcursor, -⟩ := hc
    rw [Stack.bottomUp_push, Stack.bottomUp_push, Stack.values_pushAll] at hr
    obtain ⟨alternative', rest, ha, hp, hr⟩ := hr.concat_nonTerminal
    obtain ⟨hhistory, hx⟩ := hr.of_nil
    cases current.symm.trans ha
    obtain ⟨hid, hrest⟩ := List.cons.inj hx
    cases hid
    have hvalues : history.values = [] := by simpa [Stack.bottomUp] using hhistory
    have hi := Grammar.laterAlternatives_eq_of_last current last
    refine ⟨rfl, hcursor, ?_, alternative, ?_, ?_⟩
    · rw [Stack.values_push, hvalues, ← hi]
      rfl
    · rw [List.getLast?_eq_getElem?]
      rwa [← hi] at current
    · rw [Stack.values_pushAll, hrest]
      exact hp
  | _ => cases hd

end Configuration

open TopDown.Configuration

namespace Trace

variable {t : Trace} {c : Configuration}

theorem metrics_push (t : Trace) (c : Configuration) :
    (t.push c).metrics = t.metrics.record c :=
  Array.foldl_push

def depths (t : Trace) : Set Nat :=
  {n | ∃ c ∈ t.toList, c.matched.size = n}

structure Balanced (g : Grammar) (t : Trace) : Prop where
  tallies : t.metrics.Tallies t.last
  steps_eq : t.metrics.steps = t.steps
  maxDepth : IsGreatest t.depths t.metrics.maxDepth
  tried_eq : t.metrics.alternativesTried + g.untried t.last.matched.values t.last.history.values =
    ((t.toList.filterMap expanded?).map g.laterAlternatives).sum

theorem balanced_initial (g : Grammar) (start : Nat) : Balanced g ⟨.initial start, #[]⟩ where
  tallies := ⟨rfl, rfl, rfl, rfl⟩
  steps_eq := rfl
  maxDepth := by
    refine ⟨⟨.initial start, List.mem_singleton_self _, rfl⟩, ?_⟩
    rintro n ⟨c, hc, rfl⟩
    rw [List.mem_singleton.mp hc]
    exact le_rfl
  tried_eq := rfl

theorem isGreatest_depths_push (h : IsGreatest t.depths t.metrics.maxDepth)
    (c : Configuration) : IsGreatest (t.push c).depths (t.push c).metrics.maxDepth := by
  have hmax : (t.push c).metrics.maxDepth = max t.metrics.maxDepth c.matched.size := by
    rw [metrics_push]
    rfl
  have hdepths : (t.push c).depths = insert c.matched.size t.depths := by
    ext n
    simp [depths, or_and_right, exists_or, or_comm, eq_comm]
  rw [hmax, hdepths, max_comm]
  exact h.insert _

theorem Balanced.push (h : t.Balanced g) (hs : Step g s t.last c) : (t.push c).Balanced g where
  tallies := by
    rw [metrics_push, last_push]
    exact hs.tallies h.tallies
  steps_eq := by
    rw [metrics_push, steps_push, ← h.steps_eq]
    rfl
  maxDepth := isGreatest_depths_push h.maxDepth c
  tried_eq := by
    rw [metrics_push, last_push, hs.untried, h.tried_eq, toList_push, List.filterMap_append,
      List.map_append, List.sum_append]
    cases hc : c.expanded? <;> simp [hc]

end Trace

/--
The counts of a parse that ends. All steps are counted, and the last one under no heading of its
own. If the parser rejects, it has tried all alternatives of all non-terminals that it expanded, and
the last alternative of the start symbol is still to come.
-/
theorem counters_balance {limits : Limits} {clock : Nat → Nat} {patience : Nat} {t : Trace}
    (h : g.parseStream? s start limits clock patience = some (.ok t)) :
    t.metrics.steps + 1 = t.size ∧
    t.metrics.steps = t.metrics.expansions + t.metrics.consumed + t.metrics.mismatches +
      t.metrics.retreats + t.metrics.alternativesTried + t.metrics.escalations + 1 ∧
    t.metrics.consumed = t.metrics.retreats + t.last.cursor ∧
    t.metrics.expansions = t.metrics.escalations + t.last.history.size ∧
    IsGreatest {n | ∃ c ∈ t.toList, c.matched.size = n} t.metrics.maxDepth ∧
    (t.accepted = true → t.metrics.mismatches = t.metrics.alternativesTried) ∧
    (t.accepted = false →
      t.metrics.mismatches = t.metrics.alternativesTried + 1 ∧
      t.last.matched.values = [.nonTerminal start] ∧ t.last.cursor = 0 ∧
      t.last.history.values = [(g.alternativesOf start).length - 1] ∧
      (∃ alternative, (g.alternativesOf start).getLast? = some alternative ∧
        t.last.pending.values = alternative ++ [.endMarker]) ∧
      t.metrics.alternativesTried =
        ((t.toList.filterMap expanded?).map fun id ↦ (g.alternativesOf id).length - 1).sum) := by
  obtain ⟨n, hn⟩ := Trace.returns_of_extend?_eq h
  obtain ⟨hf, hrun⟩ := hn.run
  have hrun : Run g s n (.initial start) t.last := hrun
  obtain ⟨⟨hsteps, hconsumed, hexpansions, hmismatches⟩, hsize, hdepth, htried⟩ :=
    hn.preserves (P := Trace.Balanced g) (fun _ _ ht hs ↦ ht.push hs) rfl
      (Trace.balanced_initial g start)
  have hmode : t.accepted = (t.last.mode == .success) := rfl
  refine ⟨congrArg (· + 1) hsize, ?_, hconsumed, hexpansions, hdepth, fun ha ↦ ?_, fun ha ↦ ?_⟩
  · rw [hsteps, hf]
    rfl
  · rw [hmode, beq_iff_eq] at ha
    rw [hmismatches, ha]
    rfl
  · rw [hmode, beq_eq_false_iff_ne] at ha
    have hfail : t.last.mode = .fail := (isFinal_iff.mp hf).resolve_left ha
    cases n with
    | zero =>
      rw [← Configuration.run_zero_iff.mp hrun] at hfail
      cases hfail
    | succ n =>
      obtain ⟨c, hc, hs⟩ := hrun.exists_last
      obtain ⟨hmatched, hcursor, hhistory, hpending⟩ := hs.of_fail hc.invariant hfail
      refine ⟨?_, hmatched, hcursor, hhistory, hpending, ?_⟩
      · rw [hmismatches, hfail]
        rfl
      · -- The one choice that is left is the last one.
        rw [hmatched, hhistory, Grammar.untried_nonTerminal, Grammar.laterAlternatives,
          Nat.sub_self] at htried
        exact htried

/-- In `a a c` both alternatives of `A` are tried in vain. -/
theorem counters_balance_oneOrTwo :
    ∃ t, Grammar.oneOrTwo.parseStream? (.ofTokens ["a", "a", "c"] "#") 0 {} (fun _ ↦ 0) 0 =
        some (.ok t) ∧ t.accepted = false ∧
      t.metrics = ⟨13, 2, 3, 2, 3, 1, 1, 4⟩ ∧
      t.metrics.alternativesTried =
        ((t.toList.filterMap expanded?).map fun id ↦
          (Grammar.oneOrTwo.alternativesOf id).length - 1).sum := by
  have hp : (Grammar.oneOrTwo.parseStream? (.ofTokens ["a", "a", "c"] "#") 0 {} (fun _ ↦ 0) 0).any
      (·.toOption.any fun t ↦ t.accepted == false &&
        t.metrics == ⟨13, 2, 3, 2, 3, 1, 1, 4⟩) = true := by decide +kernel
  obtain ⟨e | t, ht, hd⟩ := (Option.any_eq_true _ _).mp hp
  · cases hd
  obtain ⟨ha, hm⟩ : t.accepted = false ∧ t.metrics = ⟨13, 2, 3, 2, 3, 1, 1, 4⟩ := by
    simpa [Except.toOption] using hd
  obtain ⟨-, -, -, -, -, -, hreject⟩ := counters_balance ht
  exact ⟨t, ht, ha, hm, (hreject ha).2.2.2.2.2⟩

end TopDown
