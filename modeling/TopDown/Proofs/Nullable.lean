import Mathlib.Data.Finset.Card
import Mathlib.Data.Finset.Range
import TopDown.Proofs.BuiltGrammar

namespace TopDown.Grammar

variable {g : Grammar} {known known' : Array Bool} {id n : Nat}

theorem allKnown_cons_nonTerminal (id : Nat) (xs : List Symbol) :
    allKnown known (.nonTerminal id :: xs) = (isKnown known id && allKnown known xs) := rfl

theorem allKnown_append (xs ys : List Symbol) :
    allKnown known (xs ++ ys) = (allKnown known xs && allKnown known ys) :=
  List.all_append

theorem allKnown_mono (h : ∀ id, isKnown known id = true → isKnown known' id = true)
    {xs : List Symbol} (hx : allKnown known xs = true) : allKnown known' xs = true := by
  rw [allKnown, List.all_eq_true] at hx ⊢
  intro x hm
  cases x with
  | nonTerminal id => exact h id (hx _ hm)
  | terminal | endMarker => exact hx _ hm

theorem isKnown_nullableRound :
    isKnown (g.nullableRound known) id = (g.alternativesOf id).any (allKnown known) := by
  unfold isKnown nullableRound alternativesOf
  rw [Array.getD_eq_getD_getElem?, Array.getElem?_map]
  cases g.rules[id]? <;> rfl

theorem isKnown_nullableAfter_succ (h : isKnown (g.nullableAfter n) id = true) :
    isKnown (g.nullableAfter (n + 1)) id = true := by
  induction n generalizing id with
  | zero => simp [isKnown, nullableAfter, Array.getD] at h
  | succ n ih =>
    rw [nullableAfter, isKnown_nullableRound, List.any_eq_true] at h ⊢
    obtain ⟨alternative, ha, hk⟩ := h
    exact ⟨alternative, ha, allKnown_mono (fun _ ↦ ih) hk⟩

def knownRules (g : Grammar) (known : Array Bool) : Finset Nat :=
  (Finset.range g.rules.size).filter fun id ↦ isKnown known id = true

/-- Rounds of marking rules, none of which takes a mark back. -/
structure Marks (g : Grammar) (round : Array Bool → Array Bool) (after : Nat → Array Bool) :
    Prop where
  succ_eq : ∀ n, after (n + 1) = round (after n)
  size_eq : ∀ n, (after n).size = g.rules.size
  isKnown_succ : ∀ n id, isKnown (after n) id = true → isKnown (after (n + 1)) id = true

namespace Marks

variable {round : Array Bool → Array Bool} {after : Nat → Array Bool}

theorem knownRules_subset_succ (h : g.Marks round after) (n : Nat) :
    g.knownRules (after n) ⊆ g.knownRules (after (n + 1)) := by
  intro id hm
  rw [knownRules, Finset.mem_filter] at hm ⊢
  exact ⟨hm.1, h.isKnown_succ n id hm.2⟩

theorem succ_eq_of_card (h : g.Marks round after)
    (hc : (g.knownRules (after n)).card = (g.knownRules (after (n + 1))).card) :
    after (n + 1) = after n := by
  have hs := Finset.eq_of_subset_of_card_le (h.knownRules_subset_succ n) hc.ge
  apply Array.ext (by rw [h.size_eq, h.size_eq])
  intro id hid hid'
  have hm : id ∈ g.knownRules (after (n + 1)) ↔ id ∈ g.knownRules (after n) := by rw [hs]
  have hlt : id < g.rules.size := h.size_eq (n + 1) ▸ hid
  simpa [knownRules, isKnown, hid, hid', hlt] using hm

theorem round_eq (h : g.Marks round after) :
    round (after g.rules.size) = after g.rules.size := by
  rw [← h.succ_eq]
  refine h.succ_eq_of_card ?_
  refine (Nat.stabilises_of_monotone
    (f := fun n ↦ (g.knownRules (after n)).card) (n := g.rules.size + 1)
    (monotone_nat_of_le_succ fun n ↦ Finset.card_le_card (h.knownRules_subset_succ n))
    (fun n ↦ ?_) (fun n hc ↦ ?_) (Nat.le_succ _)).symm
  · exact (Finset.card_filter_le _ _).trans_eq (Finset.card_range _)
  · have hn : after (n + 2) = after (n + 1) := by
      rw [h.succ_eq (n + 1), h.succ_eq_of_card hc, ← h.succ_eq, h.succ_eq_of_card hc]
    exact congrArg (fun known ↦ (g.knownRules known).card) hn.symm

end Marks

theorem marks_nullable (g : Grammar) : g.Marks g.nullableRound g.nullableAfter where
  succ_eq _ := rfl
  size_eq n := by
    cases n with
    | zero => exact Array.size_replicate
    | succ n => exact Array.size_map
  isKnown_succ _ _ := isKnown_nullableAfter_succ

theorem nullableRound_nullable : g.nullableRound g.nullable = g.nullable :=
  g.marks_nullable.round_eq

theorem nullableAfter_of_le (h : g.rules.size ≤ n) : g.nullableAfter n = g.nullable := by
  induction n, h using Nat.le_induction with
  | base => rfl
  | succ n _ ih => rw [nullableAfter, ih, nullableRound_nullable]

/-- A rule is nullable just when all symbols of one of its alternatives are. -/
theorem isKnown_nullable :
    isKnown g.nullable id = (g.alternativesOf id).any (allKnown g.nullable) := by
  rw [← isKnown_nullableRound, nullableRound_nullable]

theorem isKnown_nullable_of_mem {alternative : List Symbol} (ha : alternative ∈ g.alternativesOf id)
    (hk : allKnown g.nullable alternative = true) : isKnown g.nullable id = true := by
  rw [isKnown_nullable]
  exact List.any_eq_true.mpr ⟨alternative, ha, hk⟩

theorem nullable_congr {g' : Grammar} (hr : g'.rules = g.rules) : g'.nullable = g.nullable := by
  have h (n : Nat) : g'.nullableAfter n = g.nullableAfter n := by
    induction n with
    | zero => rw [nullableAfter, nullableAfter, hr]
    | succ n ih => rw [nullableAfter, nullableAfter, ih, nullableRound, nullableRound, hr]
  rw [nullable, nullable, h, hr]

end TopDown.Grammar
