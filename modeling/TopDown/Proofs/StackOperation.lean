import TopDown.Parsing.Stack

namespace TopDown

namespace Stack

variable {α : Type}

inductive Operation (α : Type) where
  | push (a : α)
  | pushAll (values : List α)
  | pop
  | dropAll (values : List α)
  | ofList (values : List α)
  deriving DecidableEq, Repr

namespace Operation

variable [DecidableEq α]

def onStack? (s : Stack α) : Operation α → Option (Stack α)
  | push a => some (s.push a)
  | pushAll values => some (s.pushAll values)
  | pop => s.pop?.map Prod.snd
  | dropAll values => s.dropAll? values
  | ofList values => some (Stack.ofList values)

def onValues? (xs : List α) : Operation α → Option (List α)
  | push a => some (a :: xs)
  | pushAll values => some (values ++ xs)
  | pop => xs.tail?
  | dropAll values => if values <+: xs then some (xs.drop values.length) else none
  | ofList values => some values.reverse

def onSize? (n : Nat) : Operation α → Option Nat
  | push _ => some (n + 1)
  | pushAll values => some (n + values.length)
  | pop => if 1 ≤ n then some (n - 1) else none
  | dropAll values => if values.length ≤ n then some (n - values.length) else none
  | ofList values => some values.length

end Operation

open Operation

theorem values_foldl_push (s : Stack α) (xs : List α) :
    (xs.foldl push s).values = xs.reverse ++ s.values := by
  induction xs generalizing s with
  | nil => rfl
  | cons a xs ih =>
    rw [List.foldl_cons, ih, values_push, List.reverse_cons, List.append_assoc,
      List.singleton_append]

theorem values_ofList (xs : List α) : (ofList xs).values = xs.reverse := by
  rw [ofList, values_foldl_push, values_empty, List.append_nil]

theorem top?_eq_none_iff {s : Stack α} : s.top? = none ↔ s = empty := by
  obtain rfl | ⟨t, a, rfl⟩ := s.eq_empty_or_push
  · exact ⟨fun _ ↦ rfl, fun _ ↦ rfl⟩
  · simp only [top?_push, reduceCtorEq, push_ne_empty]

theorem pop?_eq_some_iff {s t : Stack α} {a : α} : s.pop? = some (a, t) ↔ s = t.push a := by
  obtain rfl | ⟨u, b, rfl⟩ := s.eq_empty_or_push
  · simp only [pop?_empty, reduceCtorEq, (push_ne_empty t a).symm]
  · rw [pop?_push, Option.some.injEq, Prod.mk.injEq, push_inj, and_comm]

theorem eq_iff_values {s t : Stack α} : s = t ↔ s.values = t.values :=
  ⟨congrArg values, ext⟩

variable [DecidableEq α] {op : Operation α} {s t : Stack α} {xs ys : List α}

theorem map_values_dropAll? (s : Stack α) (xs : List α) : (s.dropAll? xs).map values =
    if xs <+: s.values then some (s.values.drop xs.length) else none := by
  cases h : s.dropAll? xs with
  | none => rw [if_neg (dropAll?_eq_none_iff.mp h), Option.map_none]
  | some t =>
    rw [dropAll?_eq_some_iff] at h
    rw [h, values_pushAll, if_pos (List.prefix_append _ _), List.drop_left, Option.map_some]

/-- An operation does to the values what it does to a list, and fails where it fails there. -/
theorem map_values_onStack? (s : Stack α) (op : Operation α) :
    (onStack? s op).map values = onValues? s.values op := by
  cases op with
  | push a => rfl
  | pushAll xs => exact congrArg some (values_pushAll s xs)
  | pop =>
    obtain rfl | ⟨t, a, rfl⟩ := s.eq_empty_or_push
    · rfl
    · rw [onStack?, pop?_push]
      rfl
  | dropAll xs => exact map_values_dropAll? s xs
  | ofList xs => exact congrArg some (values_ofList xs)

/-- What can be done to a list can be done to its length. -/
theorem onSize?_of_onValues? (h : onValues? xs op = some ys) :
    onSize? xs.length op = some ys.length := by
  cases op with
  | push a =>
    cases h
    rfl
  | pushAll values =>
    cases h
    rw [onSize?, List.length_append, Nat.add_comm]
  | pop =>
    cases xs with
    | nil => cases h
    | cons a xs =>
      cases h
      rfl
  | dropAll values =>
    rw [onValues?] at h
    split at h
    · next hp =>
      cases h
      rw [onSize?, if_pos hp.length_le, List.length_drop]
    · cases h
  | ofList values =>
    cases h
    rw [onSize?, List.length_reverse]

theorem map_values_foldlM (ops : List (Operation α)) (s : Stack α) :
    (ops.foldlM onStack? s).map values = ops.foldlM onValues? s.values := by
  induction ops generalizing s with
  | nil => rfl
  | cons op ops ih =>
    have hop := map_values_onStack? s op
    rw [List.foldlM_cons, List.foldlM_cons, ← hop]
    cases onStack? s op with
    | none => rfl
    | some t => exact ih t

theorem foldlM_onSize?_of_onValues? {ops : List (Operation α)}
    (h : ops.foldlM onValues? xs = some ys) :
    ops.foldlM onSize? xs.length = some ys.length := by
  induction ops generalizing xs with
  | nil =>
    cases h
    rfl
  | cons op ops ih =>
    rw [List.foldlM_cons] at h ⊢
    obtain ⟨zs, hop, hrest⟩ := Option.bind_eq_some_iff.mp h
    rw [onSize?_of_onValues? hop]
    exact ih hrest

end Stack

open Stack.Operation

variable {α : Type} [DecidableEq α]

/--
Operations on stacks do to the values what they do to lists, and the kept size is always what they
make of the number zero, where nothing is taken away that is not there. Taking values off undoes
pushing them, and only that, and stacks are equal just if their values are.
-/
theorem stack_behaves_as_list :
    (∀ ops : List (Stack.Operation α),
      (ops.foldlM onStack? .empty).map Stack.values = ops.foldlM onValues? [] ∧
      ∀ s, ops.foldlM onStack? .empty = some s →
        ops.foldlM onSize? 0 = some s.size ∧ s.size = s.values.length ∧
        (s.isEmpty = true ↔ s.top? = none) ∧
        ∀ a t, s.pop? = some (a, t) → s.size = t.size + 1 ∧ s.values = a :: t.values) ∧
    (∀ (s : Stack α) (xs : List α), (s.pushAll xs).dropAll? xs = some s) ∧
    (∀ (s t : Stack α) (xs : List α), s.dropAll? xs = some t ↔ t.pushAll xs = s) ∧
    ∀ s t : Stack α, (s = t ↔ s.values = t.values) ∧
      (s == t) = (s.size == t.size && s.values == t.values) := by
  refine ⟨fun ops ↦ ⟨Stack.map_values_foldlM ops .empty, fun s hs ↦ ⟨?_, s.size_eq, ?_, ?_⟩⟩,
    fun s xs ↦ Stack.dropAll?_eq_some_iff.mpr rfl,
    fun s t xs ↦ Stack.dropAll?_eq_some_iff.trans eq_comm, fun s t ↦ ⟨Stack.eq_iff_values, ?_⟩⟩
  · have hvalues := Stack.map_values_foldlM ops .empty
    rw [hs] at hvalues
    rw [s.size_eq]
    exact Stack.foldlM_onSize?_of_onValues? hvalues.symm
  · rw [Stack.isEmpty_iff, Stack.top?_eq_none_iff]
  · intro a t h
    obtain rfl := Stack.pop?_eq_some_iff.mp h
    exact ⟨Stack.size_push t a, Stack.values_push t a⟩
  · rw [Bool.eq_iff_iff, Bool.and_eq_true, beq_iff_eq, beq_iff_eq, beq_iff_eq, Stack.eq_iff_values,
      s.size_eq, t.size_eq]
    exact (and_iff_right_of_imp (congrArg List.length)).symm

theorem stack_behaves_as_list_mixed :
    let ops : List (Stack.Operation Nat) :=
      [.ofList [1, 2], .pushAll [3, 4], .push 5, .dropAll [5, 3], .pop]
    ops.foldlM onStack? .empty = some (.ofList [1, 2]) ∧
    ops.foldlM onValues? [] = some [2, 1] ∧ ops.foldlM onSize? 0 = some 2 ∧
    ((Stack.ofList [1, 2]).pushAll [3, 3]).dropAll? [3, 3] = some (.ofList [1, 2]) := by
  intro ops
  have hs : ops.foldlM onStack? .empty = some (.ofList [1, 2]) := by decide
  obtain ⟨hops, hundo, -⟩ := stack_behaves_as_list (α := Nat)
  obtain ⟨hvalues, hsize⟩ := hops ops
  rw [hs] at hvalues
  exact ⟨hs, hvalues.symm, (hsize _ hs).1, hundo _ _⟩

end TopDown
