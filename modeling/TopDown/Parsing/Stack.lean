namespace TopDown

/-- `values` is read from the top down, and `size` is kept as their number. -/
structure Stack (α : Type) where
  values : List α
  size : Nat
  size_eq : size = values.length
  deriving DecidableEq, Repr

namespace Stack

variable {α : Type}

def empty : Stack α :=
  ⟨[], 0, rfl⟩

def isEmpty (s : Stack α) : Bool :=
  s.size == 0

def top? (s : Stack α) : Option α :=
  s.values.head?

def push (s : Stack α) (a : α) : Stack α :=
  ⟨a :: s.values, s.size + 1, by rw [s.size_eq, List.length_cons]⟩

def pop? (s : Stack α) : Option (α × Stack α) :=
  match h : s.values with
  | [] => none
  | a :: values => some (a, ⟨values, s.size - 1, by simp [s.size_eq, h]⟩)

/-- Pushes `values` so that the first of them is on top. -/
def pushAll (s : Stack α) (values : List α) : Stack α :=
  values.foldr (fun a s ↦ s.push a) s

/-- Takes `values` off the top, the first of them first, if they are there. -/
def dropAll? [DecidableEq α] (s : Stack α) : List α → Option (Stack α)
  | [] => some s
  | a :: values =>
    match s.pop? with
    | none => none
    | some (top, below) => if top = a then below.dropAll? values else none

def ofList (values : List α) : Stack α :=
  values.foldl push empty

def bottomUp (s : Stack α) : List α :=
  s.values.reverse

theorem ext {s t : Stack α} (h : s.values = t.values) : s = t := by
  obtain ⟨xs, n, hn⟩ := s
  obtain ⟨ys, m, hm⟩ := t
  cases h
  rw [← hn] at hm
  cases hm
  rfl

@[simp] theorem values_empty : (empty : Stack α).values = [] := rfl

@[simp] theorem values_push (s : Stack α) (a : α) : (s.push a).values = a :: s.values := rfl

@[simp] theorem size_push (s : Stack α) (a : α) : (s.push a).size = s.size + 1 := rfl

@[simp] theorem bottomUp_empty : (empty : Stack α).bottomUp = [] := rfl

@[simp] theorem bottomUp_push (s : Stack α) (a : α) : (s.push a).bottomUp = s.bottomUp ++ [a] :=
  List.reverse_cons

theorem length_bottomUp (s : Stack α) : s.bottomUp.length = s.size :=
  List.length_reverse.trans s.size_eq.symm

@[simp] theorem pushAll_nil (s : Stack α) : s.pushAll [] = s := rfl

@[simp] theorem pushAll_cons (s : Stack α) (a : α) (xs : List α) :
    s.pushAll (a :: xs) = (s.pushAll xs).push a := rfl

@[simp] theorem values_pushAll (s : Stack α) (xs : List α) :
    (s.pushAll xs).values = xs ++ s.values := by
  induction xs with
  | nil => rfl
  | cons a xs ih => rw [pushAll_cons, values_push, ih, List.cons_append]

theorem push_inj {s t : Stack α} {a b : α} : s.push a = t.push b ↔ s = t ∧ a = b := by
  constructor
  · intro h
    have hv := congrArg values h
    rw [values_push, values_push, List.cons.injEq] at hv
    exact ⟨ext hv.2, hv.1⟩
  · rintro ⟨rfl, rfl⟩
    rfl

theorem push_ne_empty (s : Stack α) (a : α) : s.push a ≠ empty := by
  intro h
  cases congrArg values h

theorem eq_empty_or_push (s : Stack α) : s = empty ∨ ∃ (t : Stack α) (a : α), s = t.push a := by
  cases h : s.values with
  | nil => exact .inl (ext h)
  | cons a xs => exact .inr ⟨⟨xs, xs.length, rfl⟩, a, ext h⟩

@[simp] theorem isEmpty_iff (s : Stack α) : s.isEmpty = true ↔ s = empty := by
  obtain rfl | ⟨t, a, rfl⟩ := s.eq_empty_or_push
  · exact ⟨fun _ ↦ rfl, fun _ ↦ rfl⟩
  · have h : (t.push a).isEmpty = false := rfl
    simp only [h, Bool.false_eq_true, push_ne_empty]

@[simp] theorem pop?_empty : (empty : Stack α).pop? = none := rfl

@[simp] theorem pop?_push (s : Stack α) (a : α) : (s.push a).pop? = some (a, s) := by
  have h : (s.push a).pop? = some (a, ⟨s.values, s.size + 1 - 1, s.size_eq⟩) := rfl
  rw [h]
  exact congrArg (fun t ↦ some (a, t)) (ext rfl)

theorem dropAll?_eq_some_iff [DecidableEq α] {s t : Stack α} {xs : List α} :
    s.dropAll? xs = some t ↔ s = t.pushAll xs := by
  induction xs generalizing s with
  | nil => simp only [dropAll?, Option.some.injEq, pushAll_nil]
  | cons a xs ih =>
    obtain rfl | ⟨u, b, rfl⟩ := s.eq_empty_or_push
    · simp only [dropAll?, pop?_empty, reduceCtorEq, pushAll_cons, false_iff]
      exact (push_ne_empty _ _).symm
    · simp only [dropAll?, pop?_push, pushAll_cons, push_inj]
      by_cases hb : b = a
      · rw [if_pos hb, ih]
        exact ⟨fun h ↦ ⟨h, hb⟩, And.left⟩
      · rw [if_neg hb]
        simp only [reduceCtorEq, hb, and_false]

theorem exists_pushAll_of_values {s : Stack α} {xs ys : List α} (h : s.values = xs ++ ys) :
    ∃ t : Stack α, t.values = ys ∧ s = t.pushAll xs :=
  ⟨⟨ys, ys.length, rfl⟩, rfl, ext (by rw [h, values_pushAll])⟩

theorem dropAll?_eq_none_iff [DecidableEq α] {s : Stack α} {xs : List α} :
    s.dropAll? xs = none ↔ ¬ xs <+: s.values := by
  rw [Option.eq_none_iff_forall_ne_some]
  constructor
  · rintro h ⟨ys, hy⟩
    obtain ⟨t, -, ht⟩ := exists_pushAll_of_values hy.symm
    exact h t (dropAll?_eq_some_iff.mpr ht)
  · rintro h t ht
    exact h ⟨t.values, by rw [dropAll?_eq_some_iff.mp ht, values_pushAll]⟩

@[simp] theorem top?_push (s : Stack α) (a : α) : (s.push a).top? = some a := rfl

end Stack

end TopDown
