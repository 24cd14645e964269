import Mathlib.Data.List.Basic
import TopDown.Proofs.MatchEnds

namespace TopDown

section

variable {α β : Type} [BEq α] [LawfulBEq α] [BEq β] [LawfulBEq β]

theorem filter_eraseDups (p : α → Bool) (xs : List α) :
    xs.eraseDups.filter p = (xs.filter p).eraseDups := by
  induction hn : xs.length using Nat.strongRecOn generalizing xs with
  | ind n ih =>
  cases xs with
  | nil => rfl
  | cons x xs =>
    have hrest : (xs.filter fun c ↦ !c == x).eraseDups.filter p =
        ((xs.filter p).filter fun c ↦ !c == x).eraseDups := by
      rw [ih _ ?_ _ rfl, List.filter_filter, List.filter_filter]
      · simp only [Bool.and_comm]
      · exact hn ▸ Nat.lt_succ_of_le (List.length_filter_le _ _)
    rw [List.eraseDups_cons]
    by_cases hx : p x = true
    · rw [List.filter_cons_of_pos hx, List.filter_cons_of_pos hx, List.eraseDups_cons, hrest]
    · rw [List.filter_cons_of_neg hx, List.filter_cons_of_neg hx, hrest]
      -- The value that is left out does not come back.
      rw [List.filter_eq_self.mpr fun c hc ↦ ?_]
      have hne : c ≠ x := fun h ↦ hx (h ▸ (List.mem_filter.mp hc).2)
      simpa using hne

theorem map_eraseDups {f : α → β} (hf : f.Injective) (xs : List α) :
    xs.eraseDups.map f = (xs.map f).eraseDups := by
  induction hn : xs.length using Nat.strongRecOn generalizing xs with
  | ind n ih =>
  cases xs with
  | nil => rfl
  | cons x xs =>
    have hbeq (c : α) : (f c == f x) = (c == x) := by
      rw [Bool.eq_iff_iff, beq_iff_eq, beq_iff_eq, hf.eq_iff]
    rw [List.eraseDups_cons, List.map_cons, List.map_cons, List.eraseDups_cons, List.filter_map,
      ih _ (hn ▸ Nat.lt_succ_of_le (List.length_filter_le _ _)) _ rfl]
    simp only [Function.comp_def, hbeq]

end

namespace Regex

/-- Whether an expression says nothing about the characters around those that it reads. -/
def lookFree : Regex → Bool
  | .look _ _ => false
  | .empty | .set _ => true
  | .seq a b | .alt a b => a.lookFree && b.lookFree
  | .repetition a _ => a.lookFree

structure Occurs (t s : Text) (i : Nat) : Prop where
  le_size : i + t.size ≤ s.size
  getElem?_eq : ∀ j < t.size, s[i + j]? = t[j]?

/-- Of the places in `xs`, those up to `i + n` are the places in `xs'` counted from `i`. -/
def Within (n i : Nat) (xs xs' : List Nat) : Prop :=
  xs.filter (· ≤ i + n) = xs'.map (i + ·)

section

variable {n i j e : Nat} {xs xs' ys ys' : List Nat} {f f' : Nat → List Nat} {greedy : Bool}

theorem Within.nil : Within n i [] [] := rfl

theorem Within.singleton (hj : j ≤ n) : Within n i [i + j] [j] := by
  simp [Within, hj]

theorem Within.append (h : Within n i xs xs') (h' : Within n i ys ys') :
    Within n i (xs ++ ys) (xs' ++ ys') := by
  rw [Within, List.filter_append, List.map_append, h, h']

theorem Within.prefer (h : Within n i xs xs') (h' : Within n i ys ys') :
    Within n i (prefer greedy xs ys) (Regex.prefer greedy xs' ys') := by
  cases greedy
  · exact h'.append h
  · exact h.append h'

theorem Within.eraseDups (h : Within n i xs xs') : Within n i xs.eraseDups xs'.eraseDups := by
  rw [Within, filter_eraseDups, h, map_eraseDups fun _ _ ↦ Nat.add_left_cancel]

theorem Within.head?_eq (h : Within n i xs xs') (hx : xs.head? = some (i + j)) (hj : j ≤ n) :
    xs'.head? = some j := by
  have hhead : (xs.filter (· ≤ i + n)).head? = some (i + j) := by
    rw [List.head?_filter]
    obtain ⟨ys, rfl⟩ := List.head?_eq_some_iff.mp hx
    exact List.find?_cons_of_pos (by simpa using hj)
  rw [h, List.head?_map] at hhead
  obtain ⟨k, hk, hik⟩ := Option.map_eq_some_iff.mp hhead
  rw [hk, Nat.add_left_cancel hik]

theorem Within.head?_eq_of_le (h : Within n i xs xs') (hx : ∀ e ∈ xs, e ≤ i + n)
    (hj : xs'.head? = some j) : xs.head? = some (i + j) := by
  have hall : xs.filter (· ≤ i + n) = xs :=
    List.filter_eq_self.mpr fun e he ↦ decide_eq_true (hx e he)
  rw [← hall, h, List.head?_map, hj, Option.map_some]

theorem Within.flatMap (h : Within n i xs xs') (hle : ∀ j ∈ xs', j ≤ n)
    (hf : ∀ j ≤ n, Within n i (f (i + j)) (f' j)) (hge : ∀ k, ∀ e ∈ f k, k ≤ e) :
    Within n i (xs.flatMap f) (xs'.flatMap f') := by
  have hskip : (xs.flatMap fun e ↦ (f e).filter (· ≤ i + n)) =
      (xs.filter (· ≤ i + n)).flatMap fun e ↦ (f e).filter (· ≤ i + n) := by
    clear h
    induction xs with
    | nil => rfl
    | cons e xs ih =>
      by_cases he : e ≤ i + n
      · rw [List.flatMap_cons, ih, List.filter_cons, if_pos (decide_eq_true he), List.flatMap_cons]
      · have hnone : (f e).filter (· ≤ i + n) = [] := List.filter_eq_nil_iff.mpr fun k hk ↦ by
          have := hge e k hk
          simpa using by omega
        rw [List.flatMap_cons, ih, hnone, List.filter_cons, if_neg (by simpa using he),
          List.nil_append]
  rw [Within, List.filter_flatMap, hskip, h, List.flatMap_map, List.map_flatMap]
  exact List.flatMap_congr fun j hj ↦ hf j (hle j hj)

end

structure StepsWithin (n i : Nat) (f f' : Nat → List Nat) : Prop where
  within : ∀ j ≤ n, Within n i (f (i + j)) (f' j)
  le : ∀ j ≤ n, ∀ e ∈ f' j, e ≤ n
  ge : ∀ k, ∀ e ∈ f k, k ≤ e

namespace StepsWithin

variable {n i j m : Nat} {xs xs' : List Nat} {f f' : Nat → List Nat} {greedy : Bool}

theorem exactly (h : StepsWithin n i f f') (hx : Within n i xs xs') (hle : ∀ j ∈ xs', j ≤ n) :
    Within n i (exactly f m xs) (Regex.exactly f' m xs') := by
  induction m generalizing xs xs' with
  | zero => exact hx
  | succ m ih =>
    refine ih (hx.flatMap hle h.within h.ge).eraseDups fun e he ↦ ?_
    rw [List.mem_eraseDups, List.mem_flatMap] at he
    obtain ⟨j, hj, he⟩ := he
    exact h.le j (hle j hj) e he

theorem atMost (h : StepsWithin n i f f') (hj : j ≤ n) :
    Within n i (atMost f greedy m (i + j)) (Regex.atMost f' greedy m j) := by
  induction m generalizing j with
  | zero => exact .singleton hj
  | succ m ih =>
    refine (Within.prefer ?_ (.singleton hj)).eraseDups
    exact (h.within j hj).flatMap (h.le j hj) (fun _ ↦ ih) fun k e ↦
      rel_of_mem_atMost Nat.le_refl (fun _ _ _ ↦ Nat.le_trans) h.ge

/-- Rounds that leave the part are lost, so that the characters after it need no fuel. -/
theorem oneOrMore (h : StepsWithin n i f f') (hj : j ≤ n) {fuel fuel' : Nat}
    (hfuel : n < j + fuel) (hfuel' : n < j + fuel') :
    Within n i (oneOrMore f greedy fuel (i + j)) (Regex.oneOrMore f' greedy fuel' j) := by
  induction fuel generalizing j fuel' with
  | zero => omega
  | succ fuel ih =>
    obtain ⟨fuel', rfl⟩ := Nat.exists_eq_add_one.mpr (show 0 < fuel' by omega)
    refine (Within.flatMap (h.within j hj) (h.le j hj) (fun e he ↦ ?_) fun k e hke ↦ ?_).eraseDups
    · refine Within.prefer ?_ (.singleton he)
      by_cases hlt : j < e
      · rw [if_pos hlt, if_pos (Nat.add_lt_add_left hlt i)]
        have hrest : n < e + fuel := by omega
        have hrest' : n < e + fuel' := by omega
        exact ih he hrest hrest'
      · rw [if_neg hlt, if_neg fun h ↦ hlt (Nat.lt_of_add_lt_add_left h)]
        exact .nil
    · rw [mem_prefer, List.mem_singleton] at hke
      obtain hke | rfl := hke
      · split at hke
        · exact rel_of_mem_oneOrMore (fun _ _ _ ↦ Nat.le_trans) h.ge hke
        · cases hke
      · exact Nat.le_refl e

end StepsWithin

variable {s t : Text} {r : Regex} {i j : Nat}

theorem ends_within (hr : r.lookFree = true) (h : Occurs t s i) (hj : j ≤ t.size) :
    Within t.size i (ends s r (i + j)) (ends t r j) := by
  induction r generalizing j with
  | empty => exact .singleton hj
  | look => cases hr
  | set cs =>
    rw [ends, ends]
    obtain hlt | rfl := Nat.lt_or_eq_of_le hj
    · rw [h.getElem?_eq j hlt]
      split
      · exact .singleton hlt
      · exact .nil
    · rw [Array.getElem?_eq_none (Nat.le_refl _)]
      -- The character after the part lies outside.
      split <;> simp [Within]
  | seq a b iha ihb =>
    rw [lookFree, Bool.and_eq_true] at hr
    exact ((iha hr.1 hj).flatMap (fun _ ↦ le_size_of_mem_ends hj) (fun _ ↦ ihb hr.2)
      fun _ _ ↦ le_of_mem_ends).eraseDups
  | alt a b iha ihb =>
    rw [lookFree, Bool.and_eq_true] at hr
    exact ((iha hr.1 hj).append (ihb hr.2 hj)).eraseDups
  | repetition a rounds ih =>
    have hsteps : StepsWithin t.size i (ends s a) (ends t a) :=
      ⟨fun _ ↦ ih hr, fun _ hj _ ↦ le_size_of_mem_ends hj, fun _ _ ↦ le_of_mem_ends⟩
    have hexactly (n : Nat) : Within t.size i (exactly (ends s a) n [i + j])
        (exactly (ends t a) n [j]) :=
      hsteps.exactly (.singleton hj) fun _ hm ↦ List.mem_singleton.mp hm ▸ hj
    have hmore (greedy : Bool) (j : Nat) (hj : j ≤ t.size) : Within t.size i
        (oneOrMore (ends s a) greedy (s.size + 1 - (i + j)) (i + j))
        (oneOrMore (ends t a) greedy (t.size + 1 - j) j) := by
      have hle := h.le_size
      exact hsteps.oneOrMore hj (by omega) (by omega)
    obtain ⟨min, max | max, greedy⟩ := rounds
    · cases min with
      | zero => exact ((hmore greedy j hj).prefer (.singleton hj)).eraseDups
      | succ min =>
        refine ((hexactly min).flatMap (fun _ ↦ le_of_mem_exactly hsteps.le hj) (hmore greedy)
          fun k e ↦ ?_).eraseDups
        exact rel_of_mem_oneOrMore (fun _ _ _ ↦ Nat.le_trans) hsteps.ge
    · refine ((hexactly min).flatMap (fun _ ↦ le_of_mem_exactly hsteps.le hj)
        (fun _ ↦ hsteps.atMost) fun k e ↦ ?_).eraseDups
      exact rel_of_mem_atMost Nat.le_refl (fun _ _ _ ↦ Nat.le_trans) hsteps.ge

end Regex

end TopDown
