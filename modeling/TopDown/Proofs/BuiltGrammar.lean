import Mathlib.Data.List.Forall2
import TopDown.Grammar.Builder

namespace TopDown

section

variable {ε α β : Type}

theorem except_throw (e : ε) : (throw e : Except ε α) = .error e := rfl

theorem except_error_bind (e : ε) (f : α → Except ε β) : .error e >>= f = .error e := rfl

theorem except_bind_eq_ok {x : Except ε α} {f : α → Except ε β} {b : β} :
    x >>= f = .ok b ↔ ∃ a, x = .ok a ∧ f a = .ok b := by
  cases x with
  | error e => simp [bind, Except.bind]
  | ok a => simp [bind, Except.bind]

theorem mapM_eq_ok_iff {f : α → Except ε β} {xs : List α} {ys : List β} :
    xs.mapM f = .ok ys ↔ List.Forall₂ (fun x y ↦ f x = .ok y) xs ys := by
  induction xs generalizing ys with
  | nil => simp [pure, Except.pure, eq_comm]
  | cons x xs ih =>
    simp only [List.mapM_cons, except_bind_eq_ok, ih, List.forall₂_cons_left_iff, pure, Except.pure,
      Except.ok.injEq]
    constructor
    · rintro ⟨y, hy, zs, hz, rfl⟩
      exact ⟨y, zs, hy, hz, rfl⟩
    · rintro ⟨y, zs, hy, hz, rfl⟩
      exact ⟨y, hy, zs, hz, rfl⟩

theorem map_eq_of_mapM {f : α → Except ε β} {xs : List α} {ys : List β}
    (h : xs.mapM f = .ok ys) : xs.map f = ys.map .ok := by
  rw [mapM_eq_ok_iff] at h
  rwa [← List.forall₂_eq_eq_eq, List.forall₂_map_left_iff, List.forall₂_map_right_iff]

theorem exists_mapM_eq_ok {f : α → Except ε β} {xs : List α}
    (h : ∀ x ∈ xs, ∃ y, f x = .ok y) : ∃ ys, xs.mapM f = .ok ys := by
  induction xs with
  | nil => exact ⟨[], rfl⟩
  | cons x xs ih =>
    obtain ⟨⟨y, hy⟩, hxs⟩ := List.forall_mem_cons.mp h
    obtain ⟨ys, hys⟩ := ih hxs
    exact ⟨y :: ys, mapM_eq_ok_iff.mpr (.cons hy (mapM_eq_ok_iff.mp hys))⟩

theorem exists_eq_ok_of_mapM {f : α → Except ε β} {xs : List α} {ys : List β}
    (h : xs.mapM f = .ok ys) {x : α} (hx : x ∈ xs) :
    ∃ y, f x = .ok y := by
  have hm : f x ∈ ys.map .ok := map_eq_of_mapM h ▸ List.mem_map_of_mem hx
  obtain ⟨y, -, hy⟩ := List.mem_map.mp hm
  exact ⟨y, hy.symm⟩

theorem forM_eq_ok_iff {f : α → Except ε Unit} {xs : List α} :
    xs.forM f = .ok () ↔ ∀ x ∈ xs, f x = .ok () := by
  induction xs with
  | nil => simp [pure, Except.pure]
  | cons x xs ih =>
    change (f x >>= fun _ ↦ xs.forM f) = .ok () ↔ _
    rw [except_bind_eq_ok, List.forall_mem_cons, ← ih]
    exact ⟨fun ⟨_, hx, hxs⟩ ↦ ⟨hx, hxs⟩, fun ⟨hx, hxs⟩ ↦ ⟨(), hx, hxs⟩⟩

end

namespace GrammarBuilder

variable {b : GrammarBuilder} {g : Grammar} {id : Nat}

theorem entryPoint?_eq_ok_iff :
    b.entryPoint? = .ok id ↔
      (∃ name, b.entryPoint = some name ∧ b.rules.findIdx? (·.name == name) = some id) ∧
      b.rules.find? (·.alternatives.isEmpty) = none ∧ b.patterns.find? b.hasRule = none ∧
      b.patterns.find? b.literals.contains = none := by
  unfold entryPoint?
  cases b.entryPoint with
  | none => simp [except_throw]
  | some name =>
    cases b.rules.find? (·.alternatives.isEmpty) with
    | some rule => simp [except_throw, except_error_bind]
    | none =>
      cases hi : b.rules.findIdx? (·.name == name) with
      | none => simp [hi, except_throw]
      | some i =>
        cases b.patterns.find? b.hasRule with
        | some p => simp [hi, except_throw, except_error_bind]
        | none =>
          cases b.patterns.find? b.literals.contains with
          | some p => simp [hi, except_throw]
          | none => simp [hi, pure, Except.pure]

/-- The grammar before it is validated, with the classified terminals. -/
def draft (b : GrammarBuilder) (entryPoint : Nat) (terminals : List Terminal) : Grammar where
  rules := (b.rules.map (b.resolveRule b.terminalTexts)).toArray
  terminals := terminals.toArray
  entryPoint
  endMarker := b.endMarker
  allowLeftRecursion := b.allowLeftRecursion
  warnings := (b.terminalTexts.filter b.infersPattern).map .ambiguousTerminal

/-- All checks of building but the last, which is on the grammar as a whole. -/
def draft? (b : GrammarBuilder) : Except GrammarError Grammar := do
  let entryPoint ← b.entryPoint?
  b.patterns.forM fun pattern ↦ (compilePattern pattern).map fun _ ↦ ()
  let terminals ← b.terminalTexts.mapM b.classify
  return b.draft entryPoint terminals

theorem build_eq_bind_validate (b : GrammarBuilder) :
    b.build = b.draft? >>= fun g ↦ g.validate b.allowLeftRecursion >>= fun warnings ↦
      .ok { g with warnings := g.warnings ++ warnings } := by
  unfold draft?
  simp only [bind_assoc]
  rfl

theorem build_eq_ok_iff :
    b.build = .ok g ↔ ∃ entryPoint terminals warnings,
      b.entryPoint? = .ok entryPoint ∧
      (b.patterns.forM fun pattern ↦ (compilePattern pattern).map fun _ ↦ ()) = .ok () ∧
      b.terminalTexts.mapM b.classify = .ok terminals ∧
      (b.draft entryPoint terminals).validate b.allowLeftRecursion = .ok warnings ∧
      g = { b.draft entryPoint terminals with
        warnings := (b.draft entryPoint terminals).warnings ++ warnings } := by
  unfold build
  simp only [except_bind_eq_ok]
  constructor
  · rintro ⟨entryPoint, he, ⟨⟩, hp, terminals, ht, warnings, hw, hg⟩
    exact ⟨entryPoint, terminals, warnings, he, hp, ht, hw, (Except.ok.inj hg).symm⟩
  · rintro ⟨entryPoint, terminals, warnings, he, hp, ht, hw, rfl⟩
    exact ⟨entryPoint, he, (), hp, terminals, ht, warnings, hw, rfl⟩

theorem mem_terminalTexts {name : String} {rule : RuleDraft} {alternative : List String}
    (hr : rule ∈ b.rules) (ha : alternative ∈ rule.alternatives) (hn : name ∈ alternative)
    (h : b.hasRule name = false) : name ∈ b.terminalTexts := by
  simp only [terminalTexts, List.mem_eraseDups, List.mem_flatMap, List.mem_filter]
  exact ⟨rule, hr, List.mem_flatten.mpr ⟨alternative, ha, hn⟩, by simp only [h, Bool.not_false]⟩

end GrammarBuilder

def Grammar.Has (g : Grammar) : Symbol → Prop
  | .nonTerminal id => id < g.rules.size
  | .terminal id => id < g.terminals.size
  | .endMarker => False

instance (g : Grammar) : DecidablePred g.Has
  | .nonTerminal id => inferInstanceAs (Decidable (id < g.rules.size))
  | .terminal id => inferInstanceAs (Decidable (id < g.terminals.size))
  | .endMarker => .isFalse id

structure Grammar.WellFormed (g : Grammar) : Prop where
  entryPoint_lt : g.entryPoint < g.rules.size
  alternatives_ne_nil : ∀ id < g.rules.size, g.alternativesOf id ≠ []
  has_of_mem : ∀ id, ∀ alternative ∈ g.alternativesOf id, ∀ x ∈ alternative, g.Has x

theorem Grammar.mem_alternativesOf {g : Grammar} {id : Nat} {alternative : List Symbol} :
    alternative ∈ g.alternativesOf id ↔ ∃ rule, g.rules[id]? = some rule ∧
      alternative ∈ rule.alternatives := by
  unfold alternativesOf
  cases g.rules[id]? <;> simp

theorem Grammar.alternativesOf_eq_nil_of_le {g : Grammar} {id : Nat} (h : g.rules.size ≤ id) :
    g.alternativesOf id = [] := by
  unfold alternativesOf
  rw [Array.getElem?_eq_none h]

namespace GrammarBuilder

variable {b : GrammarBuilder} {g : Grammar}

theorem draft_has_resolve (entryPoint : Nat) {terminals : List Terminal}
    (ht : terminals.length = b.terminalTexts.length) {name : String} {rule : RuleDraft}
    {alternative : List String} (hr : rule ∈ b.rules) (ha : alternative ∈ rule.alternatives)
    (hn : name ∈ alternative) :
    (b.draft entryPoint terminals).Has (b.resolve b.terminalTexts name) := by
  unfold resolve
  cases hi : b.rules.findIdx? (·.name == name) with
  | some i =>
    have h := (List.findIdx?_eq_some_iff_getElem.mp hi).1
    simpa only [Grammar.Has, draft, List.size_toArray, List.length_map] using h
  | none =>
    have h : b.hasRule name = false := by
      simpa only [hasRule, List.any_eq_false, List.findIdx?_eq_none_iff, Bool.not_eq_true] using hi
    have hm := List.idxOf_lt_length_of_mem (mem_terminalTexts hr ha hn h)
    simpa only [Grammar.Has, draft, List.size_toArray, ht] using hm

theorem build_wellFormed (h : b.build = .ok g) : g.WellFormed := by
  obtain ⟨entryPoint, terminals, warnings, he, -, ht, -, rfl⟩ := build_eq_ok_iff.mp h
  obtain ⟨⟨name, -, hi⟩, hr, -, -⟩ := entryPoint?_eq_ok_iff.mp he
  have hlen := (mapM_eq_ok_iff.mp ht).length_eq.symm
  constructor
  · have h := (List.findIdx?_eq_some_iff_getElem.mp hi).1
    simpa only [draft, List.size_toArray, List.length_map] using h
  · intro id hid
    simp only [draft, List.size_toArray, List.length_map] at hid
    have hne : ¬ b.rules[id].alternatives.isEmpty :=
      List.find?_eq_none.mp hr _ (List.getElem_mem hid)
    simpa [draft, Grammar.alternativesOf, resolveRule, hid] using hne
  · intro id alternative ha x hx
    obtain ⟨rule, hrule, hm⟩ := Grammar.mem_alternativesOf.mp ha
    simp only [draft, List.getElem?_toArray, List.getElem?_map, Option.map_eq_some_iff] at hrule
    obtain ⟨r, hr', rfl⟩ := hrule
    obtain ⟨names, hnames, rfl⟩ := List.mem_map.mp hm
    obtain ⟨n, hn, rfl⟩ := List.mem_map.mp hx
    exact draft_has_resolve entryPoint hlen (List.mem_of_getElem? hr') hnames hn

end GrammarBuilder

theorem Grammar.lt_of_nonTerminal? {g : Grammar} {name : String} {id : Nat}
    (h : g.nonTerminal? name = some id) : id < g.rules.size :=
  (Array.findIdx?_eq_some_iff_getElem.mp h).1

/-- On `a a b` the parser has to come back to `A` after it has dealt with it. -/
def GrammarBuilder.oneOrTwo : GrammarBuilder :=
  ((GrammarBuilder.withEntryPoint {} "S").withRule "S" [["A", "b"]]).withRule "A"
    [["a"], ["a", "a"]]

def Grammar.oneOrTwo : Grammar where
  rules := #[⟨"S", [[.nonTerminal 1, .terminal 0]]⟩,
    ⟨"A", [[.terminal 1], [.terminal 1, .terminal 1]]⟩]
  terminals := #[.literal "b", .literal "a"]
  entryPoint := 0
  endMarker := defaultEndMarker
  allowLeftRecursion := false
  warnings := []

theorem build_oneOrTwo : GrammarBuilder.oneOrTwo.build = .ok .oneOrTwo := by decide +kernel

end TopDown
