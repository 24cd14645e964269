import Mathlib.Logic.Basic
import TopDown.Regex.Basic

namespace TopDown.Regex

def sets : Regex → List CharSet
  | .empty | .look _ _ => []
  | .set cs => [cs]
  | .seq a b | .alt a b => a.sets ++ b.sets
  | .repetition a _ => a.sets

theorem mem_prefer {greedy : Bool} {goOn stop : List Nat} {e : Nat} :
    e ∈ prefer greedy goOn stop ↔ e ∈ goOn ∨ e ∈ stop := by
  cases greedy
  · rw [prefer, if_neg Bool.false_ne_true, List.mem_append, or_comm]
  · rw [prefer, if_pos rfl, List.mem_append]

section

variable {step : Nat → List Nat} {R : Nat → Nat → Prop} {greedy : Bool} {starts : List Nat}
  {n fuel i e : Nat} (hrefl : ∀ i, R i i) (htrans : ∀ i j k, R i j → R j k → R i k)

section

variable (hstep : ∀ i, ∀ e ∈ step i, R i e)
include htrans hstep

include hrefl in
theorem rel_of_mem_exactly (h : e ∈ exactly step n starts) : ∃ i ∈ starts, R i e := by
  induction n generalizing starts with
  | zero => exact ⟨e, h, hrefl e⟩
  | succ n ih =>
    obtain ⟨j, hj, hje⟩ := ih h
    rw [List.mem_eraseDups, List.mem_flatMap] at hj
    obtain ⟨i, hi, hij⟩ := hj
    exact ⟨i, hi, htrans i j e (hstep i j hij) hje⟩

include hrefl in
theorem rel_of_mem_atMost (h : e ∈ atMost step greedy n i) : R i e := by
  induction n generalizing i with
  | zero =>
    rw [List.mem_singleton.mp h]
    exact hrefl i
  | succ n ih =>
    rw [atMost, List.mem_eraseDups, mem_prefer, List.mem_flatMap, List.mem_singleton] at h
    obtain ⟨j, hj, hje⟩ | rfl := h
    · exact htrans i j e (hstep i j hj) (ih hje)
    · exact hrefl e

theorem rel_of_mem_oneOrMore (h : e ∈ oneOrMore step greedy fuel i) : R i e := by
  induction fuel generalizing i with
  | zero => cases h
  | succ fuel ih =>
    rw [oneOrMore, List.mem_eraseDups, List.mem_flatMap] at h
    obtain ⟨j, hj, hje⟩ := h
    rw [mem_prefer, List.mem_singleton] at hje
    obtain hje | rfl := hje
    · split at hje
      · exact htrans i j e (hstep i j hj) (ih hje)
      · cases hje
    · exact hstep i e hj

end

theorem le_of_mem_exactly {size : Nat} (hle : ∀ i ≤ size, ∀ e ∈ step i, e ≤ size)
    (hi : i ≤ size) (h : e ∈ exactly step n [i]) : e ≤ size := by
  obtain ⟨j, hj, hje⟩ := rel_of_mem_exactly (R := fun i e ↦ i ≤ size → e ≤ size) (fun _ ↦ id)
    (fun _ _ _ hij hjk hi ↦ hjk (hij hi)) (fun i e he hi ↦ hle i hi e he) h
  rw [List.mem_singleton.mp hj] at hje
  exact hje hi

variable {s : Text} {r : Regex}
include hrefl htrans

/-- A relation that holds across each character that is read holds from start to end. -/
theorem rel_of_mem_ends
    (hset : ∀ cs ∈ r.sets, ∀ i, s[i]?.any cs.contains = true → R i (i + 1)) (h : e ∈ ends s r i) :
    R i e := by
  induction r generalizing i e with
  | empty =>
    rw [List.mem_singleton.mp h]
    exact hrefl i
  | set cs =>
    rw [ends] at h
    split at h
    · next hc =>
      rw [List.mem_singleton.mp h]
      exact hset cs (List.mem_singleton_self cs) i hc
    · cases h
  | look l word =>
    rw [ends] at h
    split at h
    · rw [List.mem_singleton.mp h]
      exact hrefl i
    · cases h
  | seq a b iha ihb =>
    rw [sets] at hset
    rw [ends, List.mem_eraseDups, List.mem_flatMap] at h
    obtain ⟨j, hj, hje⟩ := h
    exact htrans i j e (iha (fun cs hcs ↦ hset cs (List.mem_append_left _ hcs)) hj)
      (ihb (fun cs hcs ↦ hset cs (List.mem_append_right _ hcs)) hje)
  | alt a b iha ihb =>
    rw [sets] at hset
    rw [ends, List.mem_eraseDups, List.mem_append] at h
    exact h.elim (iha fun cs hcs ↦ hset cs (List.mem_append_left _ hcs))
      (ihb fun cs hcs ↦ hset cs (List.mem_append_right _ hcs))
  | repetition a rounds ih =>
    have hstep (i e : Nat) (h : e ∈ ends s a i) : R i e := ih hset h
    have hexactly {n j : Nat} (hj : j ∈ exactly (ends s a) n [i]) : R i j := by
      obtain ⟨i', hi', hij⟩ := rel_of_mem_exactly hrefl htrans hstep hj
      rwa [List.mem_singleton.mp hi'] at hij
    obtain ⟨min, max | max, greedy⟩ := rounds
    · cases min with
      | zero =>
        rw [ends, List.mem_eraseDups, mem_prefer, List.mem_singleton] at h
        obtain h | rfl := h
        · exact rel_of_mem_oneOrMore htrans hstep h
        · exact hrefl e
      | succ min =>
        rw [ends, List.mem_eraseDups, List.mem_flatMap] at h
        obtain ⟨j, hj, hje⟩ := h
        exact htrans i j e (hexactly hj) (rel_of_mem_oneOrMore htrans hstep hje)
    · rw [ends, List.mem_eraseDups, List.mem_flatMap] at h
      obtain ⟨j, hj, hje⟩ := h
      exact htrans i j e (hexactly hj) (rel_of_mem_atMost hrefl htrans hstep hje)

end

variable {s : Text} {r : Regex} {p : Char → Bool} {i j e : Nat}

def Reads (p : Char → Bool) (s : Text) (i e : Nat) : Prop :=
  i ≤ e ∧ ∀ k, i ≤ k → k < e → s[k]?.any p = true

theorem Reads.trans (h : Reads p s i j) (h' : Reads p s j e) : Reads p s i e := by
  refine ⟨Nat.le_trans h.1 h'.1, fun k hik hke ↦ ?_⟩
  by_cases hkj : k < j
  · exact h.2 k hik hkj
  · exact h'.2 k (Nat.not_lt.mp hkj) hke

theorem Reads.le_size (h : Reads p s i e) (hi : i ≤ s.size) : e ≤ s.size := by
  refine Nat.not_lt.mp fun he ↦ ?_
  have hp := h.2 s.size hi he
  rw [Array.getElem?_eq_none (Nat.le_refl _)] at hp
  exact Bool.false_ne_true hp

theorem reads_of_mem_ends (hp : ∀ cs ∈ r.sets, ∀ c, cs.contains c = true → p c = true)
    (h : e ∈ ends s r i) : Reads p s i e := by
  refine rel_of_mem_ends (R := Reads p s) (fun i ↦ ⟨Nat.le_refl i, fun k hik hki ↦ ?_⟩)
    (fun _ _ _ ↦ Reads.trans) (fun cs hcs i hc ↦ ⟨Nat.le_succ i, fun k hik hki ↦ ?_⟩) h
  · omega
  · obtain rfl : k = i := by omega
    obtain ⟨c, hs, hc⟩ := (Option.any_eq_true _ _).mp hc
    exact (Option.any_eq_true _ _).mpr ⟨c, hs, hp cs hcs c hc⟩

theorem le_of_mem_ends (h : e ∈ ends s r i) : i ≤ e :=
  (reads_of_mem_ends (p := fun _ ↦ true) (fun _ _ _ _ ↦ rfl) h).1

theorem le_size_of_mem_ends (hi : i ≤ s.size) (h : e ∈ ends s r i) : e ≤ s.size :=
  (reads_of_mem_ends (p := fun _ ↦ true) (fun _ _ _ _ ↦ rfl) h).le_size hi

/-- Whether some character is read on every way through an expression. -/
def consumes : Regex → Bool
  | .empty | .look _ _ => false
  | .set _ => true
  | .seq a b => a.consumes || b.consumes
  | .alt a b => a.consumes && b.consumes
  | .repetition a rounds => 0 < rounds.min && a.consumes

theorem lt_of_mem_ends (hr : r.consumes = true) (h : e ∈ ends s r i) : i < e := by
  induction r generalizing i e with
  | empty | look => cases hr
  | set cs =>
    rw [ends] at h
    split at h
    · rw [List.mem_singleton.mp h]
      exact Nat.lt_succ_self i
    · cases h
  | seq a b iha ihb =>
    rw [ends, List.mem_eraseDups, List.mem_flatMap] at h
    obtain ⟨j, hj, hje⟩ := h
    rw [consumes, Bool.or_eq_true] at hr
    obtain hr | hr := hr
    · exact Nat.lt_of_lt_of_le (iha hr hj) (le_of_mem_ends hje)
    · exact Nat.lt_of_le_of_lt (le_of_mem_ends hj) (ihb hr hje)
  | alt a b iha ihb =>
    rw [consumes, Bool.and_eq_true] at hr
    rw [ends, List.mem_eraseDups, List.mem_append] at h
    exact h.elim (iha hr.1) (ihb hr.2)
  | repetition a rounds ih =>
    have hstep (i e : Nat) (he : e ∈ ends s a i) : i ≤ e := le_of_mem_ends he
    have htrans (i j k : Nat) : i ≤ j → j ≤ k → i ≤ k := Nat.le_trans
    obtain ⟨min, max, greedy⟩ := rounds
    rw [consumes, Bool.and_eq_true, decide_eq_true_iff] at hr
    have hlt (i e : Nat) (he : e ∈ ends s a i) : i < e := ih hr.2 he
    obtain ⟨min, rfl⟩ := Nat.exists_eq_add_one.mpr hr.1
    cases max with
    | none =>
      rw [ends, List.mem_eraseDups, List.mem_flatMap] at h
      obtain ⟨j, hj, hje⟩ := h
      obtain ⟨i', hi', hij⟩ := rel_of_mem_exactly Nat.le_refl htrans hstep hj
      rw [List.mem_singleton.mp hi'] at hij
      exact Nat.lt_of_le_of_lt hij
        (rel_of_mem_oneOrMore (fun _ _ _ ↦ Nat.lt_trans) hlt hje)
    | some max =>
      rw [ends, List.mem_eraseDups, List.mem_flatMap] at h
      obtain ⟨j, hj, hje⟩ := h
      have hj' : j ∈ exactly (ends s a) min ([i].flatMap (ends s a)).eraseDups := hj
      obtain ⟨k, hk, hkj⟩ := rel_of_mem_exactly Nat.le_refl htrans hstep hj'
      rw [List.mem_eraseDups, List.flatMap_singleton] at hk
      exact Nat.lt_of_lt_of_le (hlt i k hk)
        (Nat.le_trans hkj (rel_of_mem_atMost Nat.le_refl htrans hstep hje))

end TopDown.Regex
