import Mathlib.Tactic.Common
import TopDown.Proofs.PatternOrder

namespace TopDown.Regex

variable {s : Text} {r a b : Regex} {rs : List Regex} {cs : CharSet} {i j e n : Nat}

def Prefers (r : Regex) (s : Text) (i e : Nat) : Prop :=
  (ends s r i).head? = some e

theorem prefers_set (h : s[i]?.any cs.contains = true) : (set cs).Prefers s i (i + 1) := by
  rw [Prefers, ends, if_pos h]
  rfl

theorem prefers_set_append (before : List Char) {c : Char} (hc : cs.contains c = true)
    (after : List Char) :
    (set cs).Prefers (before ++ c :: after).toArray before.length (before.length + 1) := by
  apply prefers_set
  simpa using hc

/-- What two expressions prefer on their own is what they prefer one after the other. -/
theorem Prefers.seq (ha : a.Prefers s i j) (hb : b.Prefers s j e) : (seq a b).Prefers s i e := by
  obtain ⟨others, hj⟩ := List.head?_eq_some_iff.mp ha
  rw [Prefers, ends, head?_eraseDups, hj, List.flatMap_cons, List.head?_append, hb, Option.some_or]

theorem head?_ends_foldr_alt (parts : List Regex) (last : Regex) :
    (ends s (parts.foldr .alt last) i).head? =
      (parts ++ [last]).findSome? fun q ↦ (ends s q i).head? := by
  induction parts with
  | nil => simp
  | cons part parts ih =>
    rw [List.foldr_cons, ends, head?_eraseDups, List.head?_append, ih, List.cons_append,
      List.findSome?_cons]
    cases (ends s part i).head? <;> rfl

theorem prefers_alternatives {before : List Regex} (hbefore : ∀ q ∈ before, ends s q i = [])
    (hr : r.Prefers s i e) (after : List Regex) :
    ((before ++ r :: after).findSome? fun q ↦ (ends s q i).head?) = some e := by
  rw [List.findSome?_append, List.findSome?_eq_none_iff.mpr fun q hq ↦ by rw [hbefore q hq]; rfl,
    Option.none_or, List.findSome?_cons, hr]

theorem ends_set_eq_nil (h : s[i]?.any cs.contains = false) : ends s (set cs) i = [] := by
  rw [ends, h, if_neg Bool.false_ne_true]

theorem oneOrMore_eq_nil {f : Nat → List Nat} {greedy : Bool} (h : f i = []) (n : Nat) :
    oneOrMore f greedy n i = [] := by
  cases n with
  | zero => rfl
  | succ n =>
    rw [oneOrMore, h]
    rfl

structure RunsTo (cs : CharSet) (s : Text) (i e : Nat) : Prop where
  reads : Reads cs.contains s i e
  stops : s[e]?.any cs.contains = false

theorem RunsTo.next (h : RunsTo cs s i e) (hlt : i < e) : RunsTo cs s (i + 1) e :=
  ⟨⟨hlt, fun k hk ↦ h.reads.2 k (Nat.le_of_succ_le hk)⟩, h.stops⟩

theorem RunsTo.head?_oneOrMore (h : RunsTo cs s i e) (hlt : i < e) (hn : e ≤ i + n) :
    (oneOrMore (ends s (set cs)) true n i).head? = some e := by
  induction n generalizing i with
  | zero => omega
  | succ n ih =>
    have hone : ends s (set cs) i = [i + 1] := by
      rw [ends, if_pos (h.reads.2 i (Nat.le_refl i) hlt)]
    rw [oneOrMore, head?_eraseDups, hone, List.flatMap_cons, List.flatMap_nil, List.append_nil,
      if_pos (Nat.lt_succ_self i), prefer, if_pos rfl, List.head?_append]
    obtain rfl | hmore := Nat.eq_or_lt_of_le (show i + 1 ≤ e from hlt)
    · rw [oneOrMore_eq_nil (ends_set_eq_nil h.stops)]
      rfl
    · rw [ih (h.next hlt) hmore (by omega)]
      rfl

theorem RunsTo.le_size (h : RunsTo cs s i e) (hi : i ≤ s.size) : e ≤ s.size :=
  h.reads.le_size hi

theorem runsTo_append (before : List Char) {part : List Char}
    (hpart : ∀ c ∈ part, cs.contains c = true) (after : List Char)
    (hafter : after.head?.any cs.contains = false) :
    RunsTo cs (before ++ part ++ after).toArray before.length (before ++ part).length := by
  constructor
  · refine ⟨by simp, fun k hik hke ↦ ?_⟩
    have hk : k - before.length < part.length := by
      rw [List.length_append] at hke
      omega
    rw [List.getElem?_toArray, List.getElem?_append_left hke, List.getElem?_append_right hik,
      List.getElem?_eq_getElem hk]
    exact hpart _ (List.getElem_mem hk)
  · rwa [List.getElem?_toArray, List.getElem?_append_right (Nat.le_refl _), Nat.sub_self,
      ← List.head?_eq_getElem?]

theorem runsTo_end (before : List Char) {part : List Char}
    (hpart : ∀ c ∈ part, cs.contains c = true) :
    RunsTo cs (before ++ part).toArray before.length (before ++ part).length := by
  have h := runsTo_append before hpart [] rfl
  rwa [List.append_nil] at h

def many (cs : CharSet) : Regex :=
  .repetition (.set cs) ⟨1, none, true⟩

def manyOrNone (cs : CharSet) : Regex :=
  .repetition (.set cs) ⟨0, none, true⟩

theorem RunsTo.prefers_many (h : RunsTo cs s i e) (hlt : i < e) (hi : i ≤ s.size) :
    (many cs).Prefers s i e := by
  have he := h.le_size hi
  rw [Prefers, many, ends, head?_eraseDups, exactly, List.flatMap_cons, List.flatMap_nil,
    List.append_nil]
  exact h.head?_oneOrMore hlt (by omega)

theorem RunsTo.prefers_manyOrNone (h : RunsTo cs s i e) (hi : i ≤ s.size) :
    (manyOrNone cs).Prefers s i e := by
  have he := h.le_size hi
  rw [Prefers, manyOrNone, ends, head?_eraseDups, prefer, if_pos rfl, List.head?_append]
  obtain rfl | hlt := Nat.eq_or_lt_of_le h.reads.1
  · rw [oneOrMore_eq_nil (ends_set_eq_nil h.stops)]
    rfl
  · rw [h.head?_oneOrMore hlt (by omega)]
    rfl

def Absent (r : Regex) (s : Text) : Prop :=
  ∀ i, ends s r i = []

theorem absent_set (h : ∀ c ∈ s.toList, cs.contains c = false) : (set cs).Absent s := by
  intro i
  apply ends_set_eq_nil
  rw [← Array.getElem?_toList]
  cases hc : s.toList[i]? with
  | none => rfl
  | some c => exact h c (List.mem_of_getElem? hc)

theorem ends_seq_eq_nil (h : ends s a i = []) : ends s (seq a b) i = [] := by
  rw [ends, h]
  rfl

theorem Absent.seq_left (h : a.Absent s) (b : Regex) : (seq a b).Absent s :=
  fun i ↦ ends_seq_eq_nil (h i)

theorem Absent.seq_right (h : b.Absent s) (a : Regex) : (seq a b).Absent s := by
  intro i
  rw [ends, List.flatMap_eq_nil_iff.mpr fun j _ ↦ h j]
  rfl

theorem ends_repetition_eq_nil {greedy : Bool} (h : ends s a i = []) :
    ends s (.repetition a ⟨n + 1, none, greedy⟩) i = [] := by
  cases n with
  | zero =>
    rw [ends, exactly, List.flatMap_cons, oneOrMore_eq_nil h]
    rfl
  | succ n =>
    have hnone : exactly (ends s a) (n + 1) [i] = [] := by
      rw [exactly, List.flatMap_cons, h]
      induction n with
      | zero => rfl
      | succ n ih => exact ih
    rw [ends, hnone]
    rfl

theorem Absent.repetition {greedy : Bool} (h : a.Absent s) (n : Nat) :
    (Regex.repetition a ⟨n + 1, none, greedy⟩).Absent s :=
  fun i ↦ ends_repetition_eq_nil (h i)

end TopDown.Regex
