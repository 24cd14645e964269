import TopDown.Parsing.TraceCheck
import TopDown.Proofs.RecordedTrace
import TopDown.Proofs.SearchOrder

namespace TopDown

open TopDown.Symbol

variable {g g₀ : Grammar} {s s₀ : TokenStream} {start : Nat}

theorem Symbol.length_nonTerminalsOf (xs : List Symbol) :
    (nonTerminalsOf xs).length = xs.countP (·.isNonTerminal) := by
  induction xs with
  | nil => rfl
  | cons x xs ih =>
    cases x with
    | nonTerminal id =>
      rw [nonTerminalsOf_cons_nonTerminal, List.length_cons, ih]
      exact (List.countP_cons_of_pos rfl).symm
    | terminal | endMarker => exact ih.trans (List.countP_cons_of_neg Bool.false_ne_true).symm

namespace Replays

variable {m xs ys : List Symbol} {k : List Nat}

theorem endMarker_notMem (h : Replays g m k xs ys) : .endMarker ∉ m := by
  induction h with
  | nil => exact List.not_mem_nil
  | terminal id rest ih => exact List.not_mem_cons_of_ne_of_not_mem nofun ih
  | nonTerminal h rest ih => exact List.not_mem_cons_of_ne_of_not_mem nofun ih

end Replays

namespace Configuration

variable {c d : Configuration}

theorem matchedDefect?_eq_none {m : List Symbol} {i : Nat} (hm : .endMarker ∉ m)
    (ha : ∀ j id, (terminalsOf m)[j]? = some id → g.AcceptsAt s (i + j) id) :
    matchedDefect? g s i m = none := by
  induction m generalizing i with
  | nil => rfl
  | cons x m ih =>
    have hm' := List.not_mem_of_not_mem_cons hm
    cases x with
    | nonTerminal id => exact ih hm' ha
    | terminal id =>
      have hid : (s.get? i).any (g.accepts id) = true :=
        (Option.any_eq_true _ _).mpr (ha 0 id rfl)
      rw [matchedDefect?, if_pos hid]
      refine ih hm' fun j a hj ↦ ?_
      rw [Nat.add_assoc, Nat.add_comm 1]
      exact ha (j + 1) a hj
    | endMarker => exact absurd List.mem_cons_self hm

/-- Only configurations that have gone back since the last comparison can be exhausted. -/
structure Consistent (g : Grammar) (s : TokenStream) (start : Nat) (c : Configuration) : Prop
    extends c.Invariant g s start where
  exhausted_eq_false : c.mode = .matching → c.exhausted = false

theorem consistent_initial : (initial start).Consistent g s start where
  toInvariant := invariant_initial
  exhausted_eq_false := fun _ ↦ rfl

theorem Step.consistent (h : Step g s c d) (hc : c.Consistent g s start) :
    d.Consistent g s start := by
  refine ⟨h.invariant hc.toInvariant, fun hd ↦ ?_⟩
  cases h with
  | expansion | consume | nextAlternative => rfl
  | _ => cases hd

theorem Step.mayBeExhausted (h : Step g s c d) (hc : c.Consistent g s start) :
    (d.exhausted && !mayBeExhausted d.transition) = false := by
  cases h with
  | acceptance | mismatch | earlyEnd =>
    rw [Bool.and_eq_false_iff]
    exact .inl (hc.exhausted_eq_false rfl)
  | _ => simp [Configuration.mayBeExhausted]

theorem Step.mode?_eq (h : Step g s c d) : d.transition.mode? = some d.mode := by
  cases h <;> rfl

theorem Step.defect?_eq_none (h : Step g s c d) (hc : c.Consistent g s start) :
    d.defect? g s = none := by
  obtain ⟨hr, ha, hcur, -⟩ := h.invariant hc.toInvariant
  have hm : matchedDefect? g s 0 d.matched.bottomUp = none := by
    refine matchedDefect?_eq_none hr.endMarker_notMem fun j id hj ↦ ?_
    rw [Nat.zero_add]
    exact ha j id hj
  have hsize : d.history.size = d.matched.bottomUp.countP (·.isNonTerminal) := by
    rw [← length_nonTerminalsOf, ← hr.length_history, Stack.length_bottomUp]
  have hcursor : d.cursor =
      d.matched.bottomUp.length - d.matched.bottomUp.countP (·.isNonTerminal) := by
    rw [hcur, ← hr.length_terminalsOf, length_nonTerminalsOf, Nat.add_sub_cancel]
  unfold defect?
  simp only [hm, h.mayBeExhausted hc]
  rw [if_neg (not_not_intro hsize), if_neg (not_not_intro hcursor), if_neg Bool.false_ne_true]

theorem matchedDefect?_ne_acceptedEarly (i : Nat) (xs : List Symbol) :
    matchedDefect? g s i xs ≠ some .acceptedEarly := by
  induction xs generalizing i with
  | nil => nofun
  | cons x xs ih =>
    cases x with
    | nonTerminal id => exact ih i
    | terminal id =>
      rw [matchedDefect?]
      split
      · exact ih (i + 1)
      · nofun
    | endMarker => nofun

theorem defect?_ne_acceptedEarly (c : Configuration) : c.defect? g s ≠ some .acceptedEarly := by
  intro h
  unfold defect? at h
  simp only at h
  split at h
  · next hdefect => exact matchedDefect?_ne_acceptedEarly _ _ (hdefect.trans h)
  · split_ifs at h <;> cases h

end Configuration

open TopDown.Configuration

/-- Whether the configuration after the one with index `i`, if there is one, is its successor. -/
def StepsAt (g : Grammar) (s : TokenStream) (cs : List Configuration) (i : Nat) : Prop :=
  ∀ c d, cs[i]? = some c → cs[i + 1]? = some d → c.step g s = .ok d

theorem stepsAt_zero_iff {c d : Configuration} {cs : List Configuration} :
    StepsAt g s (c :: d :: cs) 0 ↔ c.step g s = .ok d := by
  refine ⟨fun h ↦ h c d rfl rfl, ?_⟩
  rintro h c' d' ⟨⟩ ⟨⟩
  exact h

theorem isChain_iff_stepsAt {cs : List Configuration} :
    cs.IsChain (Step g s) ↔ ∀ i, StepsAt g s cs i := by
  rw [List.isChain_iff_getElem]
  refine ⟨fun h i c d hc hd ↦ ?_, fun h i hi ↦ ?_⟩
  · obtain ⟨hi, rfl⟩ := List.getElem?_eq_some_iff.mp hd
    obtain ⟨-, rfl⟩ := List.getElem?_eq_some_iff.mp hc
    exact (h i hi).step_eq
  · exact step_eq_ok_iff.mp (h i _ _ (List.getElem?_eq_getElem _) (List.getElem?_eq_getElem hi))

def FirstWrong (g : Grammar) (s : TokenStream) (cs : List Configuration) (index : Nat) : Prop :=
  ∃ i, index = i + 1 ∧ ¬ StepsAt g s cs i ∧ ∀ j < i, StepsAt g s cs j

theorem firstWrong_one {c d : Configuration} {cs : List Configuration}
    (h : c.step g s ≠ .ok d) : FirstWrong g s (c :: d :: cs) 1 :=
  ⟨0, rfl, mt stepsAt_zero_iff.mp h, fun _ hj ↦ absurd hj (Nat.not_lt_zero _)⟩

theorem FirstWrong.cons {c d : Configuration} {cs : List Configuration} {index : Nat}
    (hs : c.step g s = .ok d) (h : FirstWrong g s (d :: cs) index) :
    FirstWrong g s (c :: d :: cs) (index + 1) := by
  obtain ⟨i, rfl, hi, hbefore⟩ := h
  refine ⟨i + 1, rfl, hi, fun j hj ↦ ?_⟩
  cases j with
  | zero => exact stepsAt_zero_iff.mpr hs
  | succ j => exact hbefore j (Nat.lt_of_succ_lt_succ hj)

namespace Trace

variable {c d : Configuration} {cs : List Configuration}

theorem stepDefect?_ne_acceptedEarly (previous : Option Configuration) (c : Configuration)
    (isLast : Bool) : stepDefect? g s previous c isLast ≠ some .acceptedEarly := by
  have hd := defect?_ne_acceptedEarly (g := g) (s := s) c
  unfold stepDefect?
  grind

theorem stepDefect?_eq_none_iff (h : Step g₀ s₀ c d) (hc : c.Consistent g s start) {isLast : Bool}
    (hlast : d.isFinal = true → isLast = true) :
    stepDefect? g s (some c) d isLast = none ↔ c.step g s = .ok d := by
  have hfinal : (d.isFinal && !isLast) = false := by
    cases hf : d.isFinal with
    | false => rfl
    | true =>
      rw [hlast hf]
      rfl
  unfold stepDefect?
  simp only [hfinal, h.mode?_eq, Bool.false_eq_true, ne_eq, not_true_eq_false, decide_false,
    Bool.and_false, if_false]
  constructor
  · intro hd
    split at hd
    · cases hd
    · next hp => cases hp
    · next hp =>
      cases hp
      split at hd
      · next hs =>
        split_ifs at hd with he
        exact he ▸ hs
      · cases hd
  · intro hs
    rw [(step_eq_ok_iff.mp hs).defect?_eq_none hc]
    simp only [hs, if_true]

theorem isLast_of_isFinal (h : (c :: cs).IsChain (Step g₀ s₀)) (hf : c.isFinal = true) :
    cs.isEmpty = true := by
  cases cs with
  | nil => rfl
  | cons d cs =>
    rw [List.isChain_cons_cons] at h
    rw [h.1.isFinal_eq_false] at hf
    cases hf

theorem firstViolation?_iff (h : (c :: cs).IsChain (Step g₀ s₀)) (hc : c.Consistent g s start)
    (i : Nat) :
    (firstViolation? g s (i + 1) (some c) cs = none ↔ (c :: cs).IsChain (Step g s)) ∧
    ∀ v, firstViolation? g s (i + 1) (some c) cs = some v →
      v.defect ≠ .acceptedEarly ∧
        ∃ index, v.index = i + index ∧ FirstWrong g s (c :: cs) index := by
  induction cs generalizing c i with
  | nil => exact ⟨⟨fun _ ↦ .singleton c, fun _ ↦ rfl⟩, nofun⟩
  | cons d cs ih =>
    rw [List.isChain_cons_cons] at h
    have hd := stepDefect?_eq_none_iff h.1 hc (isLast_of_isFinal h.2)
    rw [firstViolation?, List.isChain_cons_cons, ← step_eq_ok_iff]
    cases hdefect : stepDefect? g s (some c) d cs.isEmpty with
    | some defect =>
      have hs : c.step g s ≠ .ok d := by
        intro hs
        rw [hd.mpr hs] at hdefect
        cases hdefect
      refine ⟨⟨nofun, fun he ↦ absurd he.1 hs⟩, ?_⟩
      rintro v ⟨⟩
      refine ⟨?_, 1, rfl, firstWrong_one hs⟩
      rintro rfl
      exact stepDefect?_ne_acceptedEarly _ _ _ hdefect
    | none =>
      have hs := hd.mp hdefect
      obtain ⟨hnone, hsome⟩ := ih h.2 ((step_eq_ok_iff.mp hs).consistent hc) (i + 1)
      refine ⟨by simpa only [hs, true_and] using hnone, fun v hv ↦ ?_⟩
      obtain ⟨hdef, index, hi, hw⟩ := hsome v hv
      exact ⟨hdef, index + 1, by omega, hw.cons hs⟩

variable {t : Trace}

theorem check_of_first (ht : t.first = .initial start) :
    t.check g s = match firstViolation? g s 1 (some t.first) t.later.toList with
      | some violation => .error violation
      | none =>
        if t.accepted && t.last.cursor < s.input.size then .error ⟨t.steps, .acceptedEarly⟩
        else .ok () := by
  unfold check
  rw [ht, toList, firstViolation?, ht]
  rfl

theorem not_acceptedEarly (ht : t.first = .initial start) (h : t.toList.IsChain (Step g s)) :
    (t.accepted && decide (t.last.cursor < s.input.size)) = false := by
  have hrun := exists_run_of_isChain h t.getLast?_toList
  rw [ht] at hrun
  rw [Bool.and_eq_false_imp]
  intro ha
  have hcur := (hrun.pending_of_success (eq_of_beq ha)).2
  exact decide_eq_false (Nat.not_lt.mpr hcur)

theorem check_eq_ok_iff_isChain (ht : t.first = .initial start)
    (h : t.toList.IsChain (Step g₀ s₀)) :
    t.check g s = .ok () ↔ t.toList.IsChain (Step g s) := by
  have hc : t.first.Consistent g s start := ht ▸ consistent_initial
  have hiff := (firstViolation?_iff h hc 0).1
  rw [check_of_first ht]
  cases hv : firstViolation? g s 1 (some t.first) t.later.toList with
  | some v =>
    rw [Nat.zero_add, hv] at hiff
    exact ⟨nofun, fun hs ↦ absurd (hiff.mpr hs) nofun⟩
  | none =>
    have hs := hiff.mp hv
    simp only [not_acceptedEarly ht hs, Bool.false_eq_true, if_false, true_iff]
    exact hs

theorem firstWrong_of_check (ht : t.first = .initial start) (h : t.toList.IsChain (Step g₀ s₀))
    {v : TraceViolation} (hv : t.check g s = .error v) :
    v.defect ≠ .acceptedEarly ∧ FirstWrong g s t.toList v.index := by
  have hc : t.first.Consistent g s start := ht ▸ consistent_initial
  obtain ⟨hnone, hsome⟩ := firstViolation?_iff h hc 0
  rw [check_of_first ht] at hv
  cases hf : firstViolation? g s 1 (some t.first) t.later.toList with
  | some violation =>
    simp only [hf, Except.error.injEq] at hv
    obtain ⟨hdef, index, hi, hw⟩ := hsome v (hv ▸ hf)
    rw [Nat.zero_add] at hi
    exact ⟨hdef, hi ▸ hw⟩
  | none =>
    simp [hf, not_acceptedEarly ht (hnone.mp hf)] at hv

end Trace

/--
The check of a trace that a parser has recorded, perhaps with another grammar or other tokens,
succeeds if each configuration is the successor of the one before it, and else reports the first
that is not. So it succeeds with the grammar and the tokens of that parser, and the test for an
early acceptance never fails.
-/
theorem check_recorded_iff {t : Trace} (h : g₀.Records s₀ t) :
    (∀ (g : Grammar) (s : TokenStream),
      (t.check g s = .ok () ↔ ∀ i, StepsAt g s t.toList i) ∧
      ∀ v, t.check g s = .error v →
        (∃ i, v.index = i + 1 ∧ ¬ StepsAt g s t.toList i ∧ ∀ j < i, StepsAt g s t.toList j) ∧
        v.defect ≠ .acceptedEarly) ∧
    t.check g₀ s₀ = .ok () := by
  obtain ⟨⟨start, ht⟩, hchain⟩ := h.isChain
  refine ⟨fun g s ↦ ⟨?_, fun v hv ↦ ?_⟩, ?_⟩
  · rw [← isChain_iff_stepsAt]
    exact Trace.check_eq_ok_iff_isChain ht hchain
  · obtain ⟨hdef, hw⟩ := Trace.firstWrong_of_check ht hchain hv
    exact ⟨hw, hdef⟩
  · exact (Trace.check_eq_ok_iff_isChain ht hchain).mpr hchain

/-- Six steps on `a a b`, which are not those on `a b b`. -/
theorem check_recorded_iff_oneOrTwo :
    ∃ t, Grammar.oneOrTwo.Records (.ofTokens ["a", "a", "b"] "#") t ∧ t.size = 7 ∧
      t.check .oneOrTwo (.ofTokens ["a", "a", "b"] "#") = .ok () ∧
      t.check .oneOrTwo (.ofTokens ["a", "b", "b"] "#") = .error ⟨4, .notSuccessor⟩ ∧
      ¬ StepsAt .oneOrTwo (.ofTokens ["a", "b", "b"] "#") t.toList 3 := by
  have hp : (Grammar.oneOrTwo.parseStream? (.ofTokens ["a", "a", "b"] "#") 0 ⟨some 6, none⟩
      (fun _ ↦ 0) 0).any (fun r ↦ (recorded? r).any fun t ↦ decide (t.size = 7 ∧
        t.check .oneOrTwo (.ofTokens ["a", "b", "b"] "#") = .error ⟨4, .notSuccessor⟩)) = true := by
    decide +kernel
  obtain ⟨r, hr, ht⟩ := (Option.any_eq_true _ _).mp hp
  obtain ⟨t, ht, hv⟩ := (Option.any_eq_true _ _).mp ht
  obtain ⟨hsize, hv⟩ := of_decide_eq_true hv
  have hrec : Grammar.oneOrTwo.Records (.ofTokens ["a", "a", "b"] "#") t := .parseStream hr ht
  obtain ⟨hcheck, hown⟩ := check_recorded_iff hrec
  obtain ⟨⟨i, hi, hw, -⟩, -⟩ := (hcheck _ _).2 _ hv
  cases hi
  exact ⟨t, hrec, hsize, hown, hv, hw⟩

end TopDown
