import Mathlib.Logic.Function.Iterate
import TopDown.Improvement

namespace TopDown.Improvement

variable {β : Type} {imp : Improvement β} {a b x : Array β} {table : Array β × Bool}
  {order : List Nat} {v w : β} {id n k patience : Nat}

def Le (imp : Improvement β) (v w : β) : Prop :=
  imp.better v w = false

def Below (imp : Improvement β) (a b : Array β) : Prop :=
  ∀ id, imp.Le (imp.entry a id) (imp.entry b id)

def Closed (imp : Improvement β) (a : Array β) : Prop :=
  ∀ id, imp.Le (imp.value a id) (imp.entry a id)

/-- Values are compared by a linear order, and better tables have better values. -/
structure Lawful (imp : Improvement β) : Prop where
  le_trans : ∀ {u v w : β}, imp.Le u v → imp.Le v w → imp.Le u w
  le_antisymm : ∀ {v w : β}, imp.Le v w → imp.Le w v → v = w
  le_total : ∀ v w : β, imp.Le v w ∨ imp.Le w v
  worst_le : ∀ v : β, imp.Le imp.worst v
  value_mono : ∀ {a b : Array β}, imp.Below a b → ∀ id, imp.Le (imp.value a id) (imp.value b id)

theorem entry_of_size_le (h : a.size ≤ id) : imp.entry a id = imp.worst := by
  rw [entry, Array.getD_eq_getD_getElem?, Array.getElem?_eq_none h, Option.getD_none]

theorem entry_setIfInBounds {j : Nat} : imp.entry (a.setIfInBounds id v) j =
    if id = j ∧ id < a.size then v else imp.entry a j := by
  unfold entry
  simp only [Array.getD_eq_getD_getElem?, Array.getElem?_setIfInBounds]
  by_cases hj : id = j
  · subst hj
    by_cases hid : id < a.size <;> simp [hid]
  · simp [hj]

theorem size_update : (imp.update table id).1.size = table.1.size := by
  unfold update
  dsimp only
  split
  · exact Array.size_setIfInBounds
  · rfl

theorem update_eq_of_snd (h : (imp.update table id).2 = false) : imp.update table id = table := by
  unfold update at h ⊢
  dsimp only at h ⊢
  split at h
  · cases h
  · next hb => rw [if_neg hb]

theorem Closed.update_eq (h : imp.Closed table.1) : imp.update table id = table := by
  have hb : ¬ imp.better (imp.value table.1 id) (imp.entry table.1 id) = true := by
    rw [h id]
    exact Bool.false_ne_true
  exact if_neg hb

namespace Lawful

variable (h : imp.Lawful)
include h

theorem le_refl (v : β) : imp.Le v v :=
  or_self_iff.mp (h.le_total v v)

theorem le_of_better (hb : imp.better v w = true) : imp.Le w v := by
  refine (h.le_total v w).resolve_left fun hle ↦ ?_
  rw [Le, hb] at hle
  cases hle

theorem below_update : imp.Below table.1 (imp.update table id).1 := by
  intro j
  unfold update
  dsimp only
  split
  · next hb =>
    rw [entry_setIfInBounds]
    split
    · next hj => exact hj.1 ▸ h.le_of_better hb
    · exact h.le_refl _
  · exact h.le_refl _

theorem value_le_update (hid : id < table.1.size) :
    imp.Le (imp.value table.1 id) (imp.entry (imp.update table id).1 id) := by
  unfold update
  dsimp only
  split
  · rw [entry_setIfInBounds, if_pos ⟨rfl, hid⟩]
    exact h.le_refl _
  · next hb => exact Bool.eq_false_iff.mpr hb

theorem update_below (hx : imp.Closed x) (hb : imp.Below table.1 x) :
    imp.Below (imp.update table id).1 x := by
  intro j
  unfold update
  dsimp only
  split
  · rw [entry_setIfInBounds]
    split
    · next hj => exact hj.1 ▸ h.le_trans (h.value_mono hb id) (hx id)
    · exact hb j
  · exact hb j

end Lawful

theorem size_foldl_update (order : List Nat) (table : Array β × Bool) :
    (order.foldl imp.update table).1.size = table.1.size := by
  induction order generalizing table with
  | nil => rfl
  | cons id order ih => rw [List.foldl_cons, ih, size_update]

theorem foldl_update_eq_of_snd (h : (order.foldl imp.update table).2 = false) :
    order.foldl imp.update table = table := by
  induction order generalizing table with
  | nil => rfl
  | cons id order ih =>
    rw [List.foldl_cons] at h ⊢
    have hrest := ih h
    rw [hrest] at h ⊢
    exact update_eq_of_snd h

theorem sweep_eq_of_snd (h : (imp.sweep order a).2 = false) : imp.sweep order a = (a, false) :=
  foldl_update_eq_of_snd h

theorem Closed.sweep_eq (h : imp.Closed x) (order : List Nat) :
    imp.sweep order x = (x, false) := by
  unfold sweep
  induction order with
  | nil => rfl
  | cons id order ih => rwa [List.foldl_cons, Closed.update_eq h]

namespace Lawful

variable (h : imp.Lawful)
include h

theorem below_trans {a b c : Array β} (hab : imp.Below a b) (hbc : imp.Below b c) :
    imp.Below a c :=
  fun id ↦ h.le_trans (hab id) (hbc id)

theorem eq_of_below (hs : a.size = b.size) (hab : imp.Below a b) (hba : imp.Below b a) :
    a = b := by
  refine Array.ext hs fun id ha hb ↦ ?_
  have he := h.le_antisymm (hab id) (hba id)
  simpa only [entry, Array.getD_eq_getD_getElem?, Array.getElem?_eq_getElem, ha, hb,
    Option.getD_some] using he

theorem below_foldl_update (order : List Nat) (table : Array β × Bool) :
    imp.Below table.1 (order.foldl imp.update table).1 := by
  induction order generalizing table with
  | nil => exact fun _ ↦ h.le_refl _
  | cons id order ih => exact h.below_trans h.below_update (ih _)

theorem value_le_foldl_update (hid : id ∈ order) (hs : id < table.1.size) :
    imp.Le (imp.value table.1 id) (imp.entry (order.foldl imp.update table).1 id) := by
  induction order generalizing table with
  | nil => cases hid
  | cons j order ih =>
    rw [List.foldl_cons]
    rcases List.mem_cons.mp hid with rfl | hid
    · exact h.le_trans (h.value_le_update hs) (h.below_foldl_update order _ id)
    · have hs' : id < (imp.update table j).1.size := by rwa [size_update]
      exact h.le_trans (h.value_mono h.below_update id) (ih hid hs')

theorem foldl_update_below (hx : imp.Closed x) (hb : imp.Below table.1 x) :
    imp.Below (order.foldl imp.update table).1 x := by
  induction order generalizing table with
  | nil => exact hb
  | cons id order ih => exact ih (h.update_below hx hb)

end Lawful

def swept (imp : Improvement β) (order : List Nat) (a : Array β) : Array β :=
  (imp.sweep order a).1

theorem size_swept (a : Array β) : (imp.swept order a).size = a.size :=
  size_foldl_update order (a, false)

theorem Lawful.value_le_swept (h : imp.Lawful) (hid : id ∈ order) (hs : id < a.size) :
    imp.Le (imp.value a id) (imp.entry (imp.swept order a) id) :=
  have hs' : id < ((a, false) : Array β × Bool).1.size := hs
  h.value_le_foldl_update hid hs'

theorem settle?_of_iterate (hx : imp.Closed x) (hk : (imp.swept order)^[k] a = x)
    (hp : k < patience) : imp.settle? order patience a = some x := by
  induction patience generalizing a k with
  | zero => cases hp
  | succ patience ih =>
    cases hc : (imp.sweep order a).2 with
    | false =>
      have ha := sweep_eq_of_snd hc
      have hfix : imp.swept order a = a := congrArg Prod.fst ha
      rw [Function.iterate_fixed hfix] at hk
      rw [settle?, ha, hk]
    | true =>
      cases k with
      | zero =>
        obtain rfl : a = x := hk
        rw [hx.sweep_eq] at hc
        cases hc
      | succ k =>
        have hs : imp.sweep order a = (imp.swept order a, true) := Prod.ext rfl hc
        rw [settle?, hs]
        exact ih hk (Nat.lt_of_succ_lt_succ hp)

/-- Rounds each of which computes all entries from the table that the round before came to. -/
structure Rounds (imp : Improvement β) (n : Nat) (after : Nat → Array β) : Prop where
  zero_eq : after 0 = Array.replicate n imp.worst
  size_eq : ∀ k, (after k).size = n
  entry_succ : ∀ k, ∀ id < n, imp.entry (after (k + 1)) id = imp.value (after k) id

namespace Rounds

variable {after : Nat → Array β} (hr : imp.Rounds n after) (h : imp.Lawful)
include hr h

theorem zero_below (a : Array β) : imp.Below (after 0) a := by
  intro id
  rw [hr.zero_eq, entry, Array.getD_eq_getD_getElem?, Array.getElem?_replicate]
  split <;> exact h.worst_le _

theorem below_sweeps (horder : ∀ id < n, id ∈ order) (k : Nat) :
    ((imp.swept order)^[k] (after 0)).size = n ∧
      imp.Below (after k) ((imp.swept order)^[k] (after 0)) := by
  induction k with
  | zero => exact ⟨hr.size_eq 0, fun _ ↦ h.le_refl _⟩
  | succ k ih =>
    obtain ⟨hs, hb⟩ := ih
    rw [Function.iterate_succ_apply']
    refine ⟨(size_swept _).trans hs, fun id ↦ ?_⟩
    -- The sweep computes the entry from a table at least as good as the one of the round.
    by_cases hid : id < n
    · rw [hr.entry_succ k id hid]
      exact h.le_trans (h.value_mono hb id) (h.value_le_swept (horder id hid) (by rwa [hs]))
    · rw [entry_of_size_le (by rw [hr.size_eq]; exact Nat.not_lt.mp hid)]
      exact h.worst_le _

/-- Sweeps do not get ahead of what computing entries anew does not improve. -/
theorem sweeps_below (hx : imp.Closed x) (k : Nat) :
    imp.Below ((imp.swept order)^[k] (after 0)) x := by
  induction k with
  | zero => exact hr.zero_below h x
  | succ k ih =>
    rw [Function.iterate_succ_apply']
    exact h.foldl_update_below hx ih

/-- What rounds come to if no further round improves it is what sweeps in any order settle at. -/
theorem best?_eq (hc : imp.Closed (after k)) (horder : ∀ id < n, id ∈ order)
    (hp : k < patience) : imp.best? n order patience = some (after k) := by
  obtain ⟨hs, hb⟩ := hr.below_sweeps h horder k
  have hle : imp.Below ((imp.swept order)^[k] (after 0)) (after k) := hr.sweeps_below h hc k
  have heq := h.eq_of_below (hs.trans (hr.size_eq k).symm) hle hb
  rw [best?, ← hr.zero_eq]
  exact settle?_of_iterate hc heq hp

end Rounds

end TopDown.Improvement
