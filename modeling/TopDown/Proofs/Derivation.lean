import Mathlib.Logic.Relation
import TopDown.Grammar.Basic

namespace TopDown

namespace Symbol

def terminal? : Symbol → Option Nat
  | .terminal id => some id
  | _ => none

def terminalsOf (xs : List Symbol) : List Nat :=
  xs.filterMap terminal?

def nonTerminalsOf (xs : List Symbol) : List Nat :=
  xs.filterMap nonTerminal?

section

variable (xs ys : List Symbol) (id : Nat)

@[simp] theorem terminalsOf_nil : terminalsOf [] = [] := rfl

@[simp] theorem terminalsOf_append : terminalsOf (xs ++ ys) = terminalsOf xs ++ terminalsOf ys :=
  List.filterMap_append

@[simp] theorem terminalsOf_cons_terminal :
    terminalsOf (.terminal id :: xs) = id :: terminalsOf xs := rfl

@[simp] theorem terminalsOf_cons_nonTerminal :
    terminalsOf (.nonTerminal id :: xs) = terminalsOf xs := rfl

@[simp] theorem terminalsOf_map_terminal (w : List Nat) : terminalsOf (w.map .terminal) = w := by
  induction w with
  | nil => rfl
  | cons a w ih => rw [List.map_cons, terminalsOf_cons_terminal, ih]

@[simp] theorem nonTerminalsOf_nil : nonTerminalsOf [] = [] := rfl

@[simp] theorem nonTerminalsOf_append :
    nonTerminalsOf (xs ++ ys) = nonTerminalsOf xs ++ nonTerminalsOf ys :=
  List.filterMap_append

@[simp] theorem nonTerminalsOf_cons_terminal :
    nonTerminalsOf (.terminal id :: xs) = nonTerminalsOf xs := rfl

@[simp] theorem nonTerminalsOf_cons_nonTerminal :
    nonTerminalsOf (.nonTerminal id :: xs) = id :: nonTerminalsOf xs := rfl

@[simp] theorem nonTerminalsOf_map_terminal (w : List Nat) :
    nonTerminalsOf (w.map .terminal) = [] := by
  induction w with
  | nil => rfl
  | cons a w ih => rw [List.map_cons, nonTerminalsOf_cons_terminal, ih]

end

end Symbol

open TopDown.Symbol

inductive Grammar.Rewrites (g : Grammar) : List Symbol → List Symbol → Prop
  | replace (before after : List Symbol) {id : Nat} {alternative : List Symbol}
      (h : alternative ∈ g.alternativesOf id) :
      Rewrites g (before ++ .nonTerminal id :: after) (before ++ alternative ++ after)

def Grammar.Derives (g : Grammar) : List Symbol → List Symbol → Prop :=
  Relation.ReflTransGen g.Rewrites

/--
A derivation that always replaces the first non-terminal. The list names it for each step, with the
place of the alternative that replaces it.
-/
inductive Grammar.LeftmostDerivation (g : Grammar) :
    List (String × Nat) → List Symbol → List Symbol → Prop
  | refl (xs : List Symbol) : LeftmostDerivation g [] xs xs
  | step (w : List Nat) {id i : Nat} {alternative after ys : List Symbol} {d : List (String × Nat)}
      (h : (g.alternativesOf id)[i]? = some alternative)
      (rest : LeftmostDerivation g d (w.map .terminal ++ (alternative ++ after)) ys) :
      LeftmostDerivation g ((g.ruleName id, i) :: d)
        (w.map .terminal ++ .nonTerminal id :: after) ys

/--
Going through symbols from the front of a sequence: a terminal is removed, and a non-terminal is
replaced by the alternative that the next entry of the history names.
-/
inductive Replays (g : Grammar) :
    List Symbol → List Nat → List Symbol → List Symbol → Prop
  | nil (xs : List Symbol) : Replays g [] [] xs xs
  | terminal (id : Nat) {m xs ys : List Symbol} {k : List Nat} (rest : Replays g m k xs ys) :
      Replays g (.terminal id :: m) k (.terminal id :: xs) ys
  | nonTerminal {id i : Nat} {alternative m xs ys : List Symbol} {k : List Nat}
      (h : (g.alternativesOf id)[i]? = some alternative)
      (rest : Replays g m k (alternative ++ xs) ys) :
      Replays g (.nonTerminal id :: m) (i :: k) (.nonTerminal id :: xs) ys

namespace Replays

variable {g : Grammar} {m m' xs ys zs : List Symbol} {k k' : List Nat}

theorem trans (h : Replays g m k xs ys) (h' : Replays g m' k' ys zs) :
    Replays g (m ++ m') (k ++ k') xs zs := by
  induction h with
  | nil => exact h'
  | terminal id rest ih => exact .terminal id (ih h')
  | nonTerminal h rest ih => exact .nonTerminal h (ih h')

theorem split (h : Replays g (m ++ m') k xs zs) :
    ∃ k₁ k₂ ys, k = k₁ ++ k₂ ∧ Replays g m k₁ xs ys ∧ Replays g m' k₂ ys zs := by
  induction m generalizing k xs with
  | nil => exact ⟨[], k, xs, rfl, .nil xs, h⟩
  | cons x m ih =>
    cases h with
    | terminal id rest =>
      obtain ⟨k₁, k₂, ys, hk, h₁, h₂⟩ := ih rest
      exact ⟨k₁, k₂, ys, hk, .terminal id h₁, h₂⟩
    | nonTerminal ha rest =>
      obtain ⟨k₁, k₂, ys, rfl, h₁, h₂⟩ := ih rest
      exact ⟨_ :: k₁, k₂, ys, rfl, .nonTerminal ha h₁, h₂⟩

theorem frame (h : Replays g m k xs ys) (zs : List Symbol) :
    Replays g m k (xs ++ zs) (ys ++ zs) := by
  induction h with
  | nil => exact .nil _
  | terminal id rest ih => exact .terminal id ih
  | nonTerminal h rest ih =>
    rw [List.append_assoc] at ih
    exact .nonTerminal h ih

/-- The last of the pending symbols stays where it is until all before it are dealt with. -/
theorem unframe (h : Replays g m k (xs ++ [.endMarker]) zs) :
    ∃ ys, zs = ys ++ [.endMarker] ∧ Replays g m k xs ys := by
  induction m generalizing k xs with
  | nil =>
    cases h
    exact ⟨xs, rfl, .nil xs⟩
  | cons x m ih =>
    cases xs with
    | nil => cases h
    | cons y xs =>
      rw [List.cons_append] at h
      cases h with
      | terminal id rest =>
        obtain ⟨ys, rfl, hr⟩ := ih rest
        exact ⟨ys, rfl, .terminal id hr⟩
      | nonTerminal ha rest =>
        rw [← List.append_assoc] at rest
        obtain ⟨ys, rfl, hr⟩ := ih rest
        exact ⟨ys, rfl, .nonTerminal ha hr⟩

theorem divide (h : Replays g m k (xs ++ ys) []) :
    ∃ m₁ m₂ k₁ k₂, m = m₁ ++ m₂ ∧ k = k₁ ++ k₂ ∧ Replays g m₁ k₁ xs [] ∧ Replays g m₂ k₂ ys [] := by
  induction m generalizing k xs with
  | nil =>
    cases xs with
    | nil => exact ⟨[], [], [], k, rfl, rfl, .nil [], h⟩
    | cons x xs => cases h
  | cons x m ih =>
    cases xs with
    | nil => exact ⟨[], x :: m, [], k, rfl, rfl, .nil [], h⟩
    | cons y xs =>
      rw [List.cons_append] at h
      cases h with
      | terminal id rest =>
        obtain ⟨m₁, m₂, k₁, k₂, rfl, hk, h₁, h₂⟩ := ih rest
        exact ⟨_ :: m₁, m₂, k₁, k₂, rfl, hk, .terminal id h₁, h₂⟩
      | nonTerminal ha rest =>
        rw [← List.append_assoc] at rest
        obtain ⟨m₁, m₂, k₁, k₂, rfl, rfl, h₁, h₂⟩ := ih rest
        exact ⟨_ :: m₁, m₂, _ :: k₁, k₂, rfl, rfl, .nonTerminal ha h₁, h₂⟩

theorem resume (h : Replays g m k xs ys) (h' : Replays g m' (k ++ k') xs zs)
    (hz : k' = [] → zs = []) : ∃ n, m' = m ++ n ∧ Replays g n k' ys zs := by
  induction h generalizing m' with
  | nil => exact ⟨m', rfl, h'⟩
  | @terminal id m xs ys k rest ih =>
    generalize hl : k ++ k' = l at h'
    cases h' with
    | nil => cases hz (List.append_eq_nil_iff.mp hl).2
    | terminal _ rest' =>
      subst hl
      obtain ⟨n, rfl, hn⟩ := ih rest'
      exact ⟨n, rfl, hn⟩
  | @nonTerminal id i alternative m xs ys k ha rest ih =>
    rw [List.cons_append] at h'
    cases h' with
    | nonTerminal hb rest' =>
      cases ha.symm.trans hb
      obtain ⟨n, rfl, hn⟩ := ih rest'
      exact ⟨n, rfl, hn⟩

theorem of_nil (h : Replays g [] k xs ys) : k = [] ∧ xs = ys := by
  cases h
  exact ⟨rfl, rfl⟩

theorem of_nil_left (h : Replays g m k [] ys) : m = [] ∧ k = [] ∧ ys = [] := by
  cases h
  exact ⟨rfl, rfl, rfl⟩

/-- The choices determine a complete replay, and none of them is superfluous. -/
theorem eq_of_isPrefix (h : Replays g m k xs []) (h' : Replays g m' k' xs []) (hk : k <+: k') :
    m' = m ∧ k' = k := by
  obtain ⟨l, rfl⟩ := hk
  obtain ⟨n, rfl, hn⟩ := h.resume h' fun _ ↦ rfl
  obtain ⟨rfl, rfl, -⟩ := hn.of_nil_left
  exact ⟨List.append_nil m, List.append_nil k⟩

theorem concat_terminal {id : Nat} (h : Replays g (m ++ [.terminal id]) k xs zs) :
    Replays g m k xs (.terminal id :: zs) := by
  obtain ⟨k₁, k₂, ys, rfl, h₁, h₂⟩ := h.split
  cases h₂ with
  | terminal _ rest =>
    cases rest
    rwa [List.append_nil]

theorem concat_nonTerminal {id i : Nat}
    (h : Replays g (m ++ [.nonTerminal id]) (k ++ [i]) xs zs) :
    ∃ alternative rest, (g.alternativesOf id)[i]? = some alternative ∧ zs = alternative ++ rest ∧
      Replays g m k xs (.nonTerminal id :: rest) := by
  obtain ⟨k₁, k₂, ys, hk, h₁, h₂⟩ := h.split
  cases h₂ with
  | nonTerminal ha rest =>
    cases rest
    obtain ⟨rfl, hi⟩ := List.append_inj' hk rfl
    cases hi
    exact ⟨_, _, ha, rfl, h₁⟩

theorem not_concat_endMarker : ¬ Replays g (m ++ [.endMarker]) k xs zs := by
  intro h
  obtain ⟨k₁, k₂, ys, -, -, h₂⟩ := h.split
  cases h₂

theorem length_history (h : Replays g m k xs ys) : k.length = (nonTerminalsOf m).length := by
  induction h with
  | nil => rfl
  | terminal id rest ih => exact ih
  | nonTerminal h rest ih => simp only [List.length_cons, nonTerminalsOf_cons_nonTerminal, ih]

theorem length_terminalsOf (h : Replays g m k xs ys) :
    (terminalsOf m).length + (nonTerminalsOf m).length = m.length := by
  induction h with
  | nil => rfl
  | terminal id rest ih =>
    simp only [terminalsOf_cons_terminal, nonTerminalsOf_cons_terminal, List.length_cons]
    omega
  | nonTerminal h rest ih =>
    simp only [terminalsOf_cons_nonTerminal, nonTerminalsOf_cons_nonTerminal, List.length_cons]
    omega

theorem eq_of_same (h : Replays g m k xs ys) (h' : Replays g m k xs zs) : ys = zs := by
  induction h with
  | nil => exact h'.of_nil.2
  | terminal id rest ih =>
    cases h' with
    | terminal _ rest' => exact ih rest'
  | nonTerminal ha rest ih =>
    cases h' with
    | nonTerminal hb rest' =>
      cases ha.symm.trans hb
      exact ih rest'

theorem of_terminals (w : List Nat) (xs : List Symbol) :
    Replays g (w.map .terminal) [] (w.map .terminal ++ xs) xs := by
  induction w with
  | nil => exact .nil xs
  | cons a w ih => exact .terminal a ih

end Replays

variable {g : Grammar} {m xs ys : List Symbol} {k w : List Nat} {d : List (String × Nat)}

theorem Grammar.Derives.prepend (x : Symbol) (h : g.Derives xs ys) :
    g.Derives (x :: xs) (x :: ys) := by
  refine Relation.ReflTransGen.lift (x :: ·) (fun as bs hr ↦ ?_) _ _ h
  obtain ⟨before, after, ha⟩ := hr
  exact .replace (x :: before) after ha

theorem Replays.derives (h : Replays g m k xs ys) :
    g.Derives xs ((terminalsOf m).map .terminal ++ ys) := by
  induction h with
  | nil xs => exact .refl
  | terminal id rest ih => exact ih.prepend _
  | nonTerminal ha rest ih =>
    refine .head ?_ ih
    simpa only [List.nil_append] using
      Grammar.Rewrites.replace [] _ (List.mem_of_getElem? ha)

theorem Grammar.Rewrites.exists_replays (hr : g.Rewrites xs ys) (h : Replays g m k ys []) :
    ∃ m' k', Replays g m' k' xs [] ∧ terminalsOf m' = terminalsOf m := by
  obtain @⟨before, after, id, alternative, ha⟩ := hr
  rw [List.append_assoc] at h
  obtain ⟨m₁, n, k₁, l, rfl, rfl, h₁, hn⟩ := h.divide
  obtain ⟨i, hi⟩ := List.mem_iff_getElem?.mp ha
  refine ⟨m₁ ++ .nonTerminal id :: n, k₁ ++ i :: l, ?_, ?_⟩
  · exact (h₁.frame _).trans (.nonTerminal hi hn)
  · simp only [terminalsOf_append, terminalsOf_cons_nonTerminal]

theorem Grammar.Derives.exists_replays (h : g.Derives xs (w.map .terminal)) :
    ∃ m k, Replays g m k xs [] ∧ terminalsOf m = w := by
  induction h using Relation.ReflTransGen.head_induction_on with
  | refl =>
    refine ⟨w.map .terminal, [], ?_, terminalsOf_map_terminal w⟩
    simpa only [List.append_nil] using Replays.of_terminals (g := g) w []
  | head hr _ ih =>
    obtain ⟨m, k, h, hw⟩ := ih
    obtain ⟨m', k', h', hw'⟩ := hr.exists_replays h
    exact ⟨m', k', h', hw'.trans hw⟩

/-- The terminal sequences that a sequence derives are what its complete replays remove. -/
theorem Grammar.derives_iff_exists_replays :
    g.Derives xs (w.map .terminal) ↔ ∃ m k, Replays g m k xs [] ∧ terminalsOf m = w := by
  refine ⟨Derives.exists_replays, ?_⟩
  rintro ⟨m, k, h, rfl⟩
  simpa only [List.append_nil] using h.derives

def choices (g : Grammar) (m : List Symbol) (k : List Nat) : List (String × Nat) :=
  ((nonTerminalsOf m).map g.ruleName).zip k

theorem Replays.map_snd_choices (h : Replays g m k xs ys) : (choices g m k).map Prod.snd = k := by
  refine List.map_snd_zip ?_
  rw [List.length_map]
  exact Nat.le_of_eq h.length_history

theorem Replays.length_choices (h : Replays g m k xs ys) :
    (choices g m k).length = (nonTerminalsOf m).length := by
  rw [← h.length_history, ← List.length_map (f := Prod.snd), h.map_snd_choices]

theorem Grammar.LeftmostDerivation.prepend (id : Nat) (h : g.LeftmostDerivation d xs ys) :
    g.LeftmostDerivation d (.terminal id :: xs) (.terminal id :: ys) := by
  induction h with
  | refl => exact .refl _
  | step w h rest ih => exact .step (id :: w) h ih

theorem Replays.leftmostDerivation (h : Replays g m k xs ys) :
    g.LeftmostDerivation (choices g m k) xs ((terminalsOf m).map .terminal ++ ys) := by
  induction h with
  | nil xs => exact .refl xs
  | terminal id rest ih => exact ih.prepend id
  | nonTerminal h rest ih => exact .step [] h ih

theorem Grammar.LeftmostDerivation.exists_replays
    (h : g.LeftmostDerivation d xs (w.map .terminal)) :
    ∃ m k, Replays g m k xs [] ∧ terminalsOf m = w ∧ choices g m k = d := by
  generalize hy : w.map Symbol.terminal = ys at h
  induction h with
  | refl =>
    subst hy
    refine ⟨w.map .terminal, [], ?_, terminalsOf_map_terminal w, ?_⟩
    · simpa only [List.append_nil] using Replays.of_terminals (g := g) w []
    · exact List.zip_nil_right
  | @step v id i alternative after ys d hi rest ih =>
    obtain ⟨m, k, h, hw, hd⟩ := ih hy
    -- The terminals before the replaced symbol are the first that the replay removes.
    rw [← List.nil_append k] at h
    obtain ⟨n, rfl, hn⟩ := (Replays.of_terminals v (alternative ++ after)).resume h
      fun _ ↦ rfl
    refine ⟨v.map .terminal ++ .nonTerminal id :: n, i :: k, ?_, ?_, ?_⟩
    · exact (Replays.of_terminals v (.nonTerminal id :: after)).trans (.nonTerminal hi hn)
    · simpa only [terminalsOf_append, terminalsOf_cons_nonTerminal] using hw
    · rw [← hd]
      simp only [choices, nonTerminalsOf_append, nonTerminalsOf_map_terminal, List.nil_append,
        nonTerminalsOf_cons_nonTerminal, List.map_cons, List.zip_cons_cons]

end TopDown
