import Mathlib.Algebra.GroupWithZero.Nat
import Mathlib.Algebra.Order.BigOperators.Group.List
import Mathlib.Algebra.Order.Group.Nat
import Mathlib.Order.WellFounded
import TopDown.Proofs.LeftRecursion

namespace TopDown.Grammar

open LeftRecursion

variable {g : Grammar} {nullable : Array Bool} {id : Nat}

def leadingWeight (nullable : Array Bool) (weight : Nat → Nat) (xs : List Symbol) : Nat :=
  ((leadingNonTerminals nullable xs).map weight).sum

/-- Whether each non-terminal outweighs what its alternatives begin with. -/
def Outweighs (g : Grammar) (weight : Nat → Nat) : Prop :=
  ∀ id, ∀ alternative ∈ g.alternativesOf id, leadingWeight g.nullable weight alternative < weight id

def leaders (g : Grammar) (id : Nat) : List Nat :=
  (g.alternativesOf id).flatMap (leadingNonTerminals g.nullable)

noncomputable def weight (h : WellFounded (Follows (g.leftCorners g.nullable))) : Nat → Nat :=
  h.fix fun id weightOf ↦
    ((g.leaders id).attach.map fun ⟨next, hn⟩ ↦ weightOf next (List.mem_eraseDups.mpr hn)).sum + 1

theorem weight_eq (h : WellFounded (Follows (g.leftCorners g.nullable))) (id : Nat) :
    weight h id = ((g.leaders id).map (weight h)).sum + 1 := by
  rw [← List.attach_map_val]
  exact h.fix_eq _ id

theorem outweighs_weight (h : WellFounded (Follows (g.leftCorners g.nullable))) :
    g.Outweighs (weight h) := by
  intro id alternative ha
  have hsub : (leadingNonTerminals g.nullable alternative).Sublist (g.leaders id) :=
    List.sublist_flatten_of_mem (List.mem_map_of_mem ha)
  rw [weight_eq, Nat.lt_succ_iff]
  exact (hsub.map (weight h)).sum_le_sum fun _ _ ↦ Nat.zero_le _

theorem Outweighs.leadingWeight_lt {weight : Nat → Nat} (h : g.Outweighs weight)
    {alternative : List Symbol} (ha : alternative ∈ g.alternativesOf id) (rest : List Symbol) :
    leadingWeight g.nullable weight (alternative ++ rest) <
      leadingWeight g.nullable weight (.nonTerminal id :: rest) := by
  have hlt := h id alternative ha
  unfold leadingWeight at hlt ⊢
  rw [leadingNonTerminals_append, leadingNonTerminals, List.map_append, List.sum_append,
    List.map_cons, List.sum_cons]
  by_cases hk : allKnown g.nullable alternative = true
  · rw [if_pos hk, if_pos (isKnown_nullable_of_mem ha hk)]
    omega
  · rw [if_neg hk]
    simp only [List.map_nil, List.sum_nil]
    omega

end TopDown.Grammar
