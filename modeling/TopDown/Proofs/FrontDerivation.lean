import Mathlib.Logic.Relation
import TopDown.Proofs.Derivation
import TopDown.Proofs.LeftRecursion

namespace TopDown

open TopDown.Symbol

/-- `n` replacements, each of the first symbol, lead from one sequence to the other. -/
inductive Grammar.Unfolds (g : Grammar) : Nat → List Symbol → List Symbol → Prop
  | refl (xs : List Symbol) : Unfolds g 0 xs xs
  | step {n id : Nat} {alternative xs ys : List Symbol} (h : alternative ∈ g.alternativesOf id)
      (rest : Unfolds g n (alternative ++ xs) ys) : Unfolds g (n + 1) (.nonTerminal id :: xs) ys

namespace Grammar

variable {g : Grammar} {n m id next : Nat} {xs ys zs : List Symbol}

theorem Unfolds.trans (h : g.Unfolds n xs ys) (h' : g.Unfolds m ys zs) :
    g.Unfolds (n + m) xs zs := by
  induction h with
  | refl => simpa only [Nat.zero_add] using h'
  | step ha rest ih => simpa only [Nat.add_right_comm] using Unfolds.step ha (ih h')

theorem Unfolds.frame (h : g.Unfolds n xs ys) (zs : List Symbol) :
    g.Unfolds n (xs ++ zs) (ys ++ zs) := by
  induction h with
  | refl => exact .refl _
  | step ha rest ih =>
    rw [List.append_assoc] at ih
    exact .step ha ih

theorem Unfolds.exists_replays (h : g.Unfolds n xs ys) :
    ∃ m k, Replays g m k xs ys ∧ terminalsOf m = [] ∧ k.length = n := by
  induction h with
  | refl xs => exact ⟨[], [], .nil xs, rfl, rfl⟩
  | step ha rest ih =>
    obtain ⟨m, k, hr, hm, hk⟩ := ih
    obtain ⟨i, hi⟩ := List.mem_iff_getElem?.mp ha
    exact ⟨_, i :: k, .nonTerminal hi hr, hm, by rw [List.length_cons, hk]⟩

theorem exists_unfolds_of_allKnown {known : Array Bool}
    (h : ∀ id, isKnown known id = true → ∃ n, g.Unfolds n [.nonTerminal id] [])
    (hx : allKnown known xs = true) : ∃ n, g.Unfolds n xs [] := by
  induction xs with
  | nil => exact ⟨0, .refl []⟩
  | cons x xs ih =>
    cases x with
    | nonTerminal id =>
      rw [allKnown_cons_nonTerminal, Bool.and_eq_true] at hx
      obtain ⟨n, hn⟩ := h id hx.1
      obtain ⟨m, hm⟩ := ih hx.2
      exact ⟨n + m, (hn.frame xs).trans hm⟩
    | terminal | endMarker => cases hx

theorem exists_unfolds_of_isKnown (h : isKnown (g.nullableAfter n) id = true) :
    ∃ m, g.Unfolds m [.nonTerminal id] [] := by
  induction n generalizing id with
  | zero => simp [isKnown, nullableAfter, Array.getD] at h
  | succ n ih =>
    rw [nullableAfter, isKnown_nullableRound, List.any_eq_true] at h
    obtain ⟨alternative, ha, hk⟩ := h
    obtain ⟨m, hm⟩ := exists_unfolds_of_allKnown (fun _ ↦ ih) hk
    exact ⟨m + 1, .step ha (by rwa [List.append_nil])⟩

theorem exists_unfolds_of_mem_leadingNonTerminals
    (h : next ∈ leadingNonTerminals g.nullable xs) :
    ∃ n rest, g.Unfolds n xs (.nonTerminal next :: rest) := by
  obtain ⟨before, after, rfl, hb⟩ := mem_leadingNonTerminals_iff.mp h
  obtain ⟨n, hn⟩ := exists_unfolds_of_allKnown (fun _ ↦ exists_unfolds_of_isKnown) hb
  exact ⟨n, after, hn.frame _⟩

def LeftCorner (g : Grammar) (id next : Nat) : Prop :=
  next ∈ g.leftCorners g.nullable id

theorem leftCorner_iff : g.LeftCorner id next ↔
    ∃ alternative ∈ g.alternativesOf id, next ∈ leadingNonTerminals g.nullable alternative := by
  rw [LeftCorner, leftCorners, List.mem_eraseDups, List.mem_flatMap]

theorem LeftCorner.exists_unfolds (h : g.LeftCorner id next) :
    ∃ n rest, g.Unfolds (n + 1) [.nonTerminal id] (.nonTerminal next :: rest) := by
  obtain ⟨alternative, ha, hn⟩ := leftCorner_iff.mp h
  obtain ⟨n, rest, hu⟩ := exists_unfolds_of_mem_leadingNonTerminals hn
  exact ⟨n, rest, .step ha (by rwa [List.append_nil])⟩

theorem exists_unfolds_of_leftCorners (h : Relation.ReflTransGen g.LeftCorner id next) :
    ∃ n rest, g.Unfolds n [.nonTerminal id] (.nonTerminal next :: rest) := by
  induction h with
  | refl => exact ⟨0, [], .refl _⟩
  | tail _ hc ih =>
    obtain ⟨n, rest, hn⟩ := ih
    obtain ⟨m, more, hm⟩ := hc.exists_unfolds
    exact ⟨n + (m + 1), more ++ rest, hn.trans (hm.frame rest)⟩

theorem LeftmostDerivation.eq_cons_terminal {d : List (String × Nat)} {id : Nat}
    (h : g.LeftmostDerivation d (.terminal id :: xs) ys) : ∃ zs, ys = .terminal id :: zs := by
  generalize hx : Symbol.terminal id :: xs = us at h
  induction h generalizing xs with
  | refl => exact ⟨xs, hx.symm⟩
  | step w h rest ih =>
    cases w with
    | nil => cases hx
    | cons a w =>
      cases hx
      exact ih rfl

theorem LeftmostDerivation.unfolds {d : List (String × Nat)}
    (h : g.LeftmostDerivation d xs (.nonTerminal id :: ys)) :
    g.Unfolds d.length xs (.nonTerminal id :: ys) := by
  generalize hz : Symbol.nonTerminal id :: ys = zs at h
  induction h with
  | refl => exact .refl _
  | step w h rest ih =>
    cases w with
    | nil => exact .step (List.mem_of_getElem? h) (ih hz)
    | cons a w =>
      obtain ⟨zs, he⟩ := rest.eq_cons_terminal
      rw [he] at hz
      cases hz

theorem Unfolds.iterate {rest : List Symbol} (hn : n ≠ 0)
    (h : g.Unfolds n [.nonTerminal id] (.nonTerminal id :: rest)) (m : Nat) :
    ∃ l more, m ≤ l ∧ g.Unfolds l [.nonTerminal id] (.nonTerminal id :: more) := by
  induction m with
  | zero => exact ⟨0, [], Nat.le_refl 0, .refl _⟩
  | succ m ih =>
    obtain ⟨l, more, hl, hu⟩ := ih
    exact ⟨l + n, rest ++ more, by omega, hu.trans (h.frame more)⟩

end Grammar

end TopDown
