import TopDown.Regex.Flags

namespace TopDown.Regex

/-- A part of an expression, and how many brackets, rows and repetitions are open inside of it. -/
structure Nested (α : Type) where
  value : α
  depth : Nat := 0
  deriving DecidableEq, Repr

def Nested.wrap {α β : Type} (f : α → β) (part : Nested α) : Nested β :=
  ⟨f part.value, part.depth + 1⟩

def Nested.deepen {α : Type} (part : Nested α) : Nested α :=
  { part with depth := part.depth + 1 }

/-- A row of two parts or more is one level above the deepest of them. -/
def rowDepth : List Nat → Nat
  | [] => 0
  | [depth] => depth
  | depths => depths.foldr max 0 + 1

theorem foldr_max_le {depths : List Nat} {n : Nat} (h : ∀ d ∈ depths, d ≤ n) :
    depths.foldr max 0 ≤ n := by
  induction depths with
  | nil => exact Nat.zero_le n
  | cons d depths ih =>
    exact Nat.max_le.mpr ⟨h d List.mem_cons_self, ih fun d hd ↦ h d (List.mem_cons_of_mem _ hd)⟩

theorem rowDepth_le {depths : List Nat} {n : Nat} (h : ∀ d ∈ depths, d ≤ n) :
    rowDepth depths ≤ n + 1 := by
  unfold rowDepth
  split
  · exact Nat.zero_le _
  · exact Nat.le_succ_of_le (h _ List.mem_cons_self)
  · exact Nat.succ_le_succ (foldr_max_le h)

def nestLimit : Nat := 250

end TopDown.Regex
