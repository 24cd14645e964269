import Mathlib.Data.List.Lex
import TopDown.Proofs.ReachableState

namespace TopDown

open TopDown.Symbol

/-- The first sequence has the smaller entry where the two first differ. -/
inductive BranchesBefore : List Nat → List Nat → Prop
  | here {i j : Nat} (h : i < j) (d e : List Nat) : BranchesBefore (i :: d) (j :: e)
  | later (i : Nat) {d e : List Nat} (h : BranchesBefore d e) : BranchesBefore (i :: d) (i :: e)

namespace BranchesBefore

variable {d e k : List Nat} {i : Nat}

theorem lt (h : BranchesBefore d e) : d < e := by
  induction h with
  | here h => exact List.cons_lt_cons_iff.mpr (.inl h)
  | later i h ih => exact List.cons_lt_cons_iff.mpr (.inr ⟨rfl, ih⟩)

theorem trichotomy (d e : List Nat) :
    d <+: e ∨ e <+: d ∨ BranchesBefore d e ∨ BranchesBefore e d := by
  induction d generalizing e with
  | nil => exact .inl List.nil_prefix
  | cons i d ih =>
    cases e with
    | nil => exact .inr (.inl List.nil_prefix)
    | cons j e =>
      rcases Nat.lt_trichotomy i j with h | rfl | h
      · exact .inr (.inr (.inl (.here h d e)))
      · simp only [List.cons_prefix_cons, true_and]
        rcases ih e with h | h | h | h
        · exact .inl h
        · exact .inr (.inl h)
        · exact .inr (.inr (.inl (.later i h)))
        · exact .inr (.inr (.inr (.later i h)))
      · exact .inr (.inr (.inr (.here h e d)))

theorem not_nil : ¬ BranchesBefore d [] := nofun

theorem concat_iff : BranchesBefore d (k ++ [i]) ↔
    BranchesBefore d k ∨ ∃ j e, j < i ∧ d = k ++ j :: e := by
  induction k generalizing d with
  | nil =>
    constructor
    · intro h
      cases h with
      | here h e => exact .inr ⟨_, e, h, rfl⟩
      | later i h => exact absurd h not_nil
    · rintro (h | ⟨j, e, hj, rfl⟩)
      · exact absurd h not_nil
      · exact .here hj e []
  | cons a k ih =>
    constructor
    · intro h
      cases h with
      | here h e => exact .inl (.here h e k)
      | later a h =>
        rcases ih.mp h with h | ⟨j, e, hj, rfl⟩
        · exact .inl (.later a h)
        · exact .inr ⟨j, e, hj, rfl⟩
    · rintro (h | ⟨j, e, hj, rfl⟩)
      · cases h with
        | here h e => exact .here h e _
        | later a h => exact .later a (ih.mpr (.inl h))
      · exact .later a (ih.mpr (.inr ⟨j, e, hj, rfl⟩))

theorem concat_or_isPrefix {j : Nat} (hj : j ≤ i) (e : List Nat) :
    BranchesBefore (k ++ j :: e) (k ++ [i]) ∨ k ++ [i] <+: k ++ j :: e := by
  rcases Nat.lt_or_eq_of_le hj with h | rfl
  · exact .inl (concat_iff.mpr (.inr ⟨j, e, h, rfl⟩))
  · exact .inr ⟨e, by simp⟩

end BranchesBefore

variable {g : Grammar} {s : TokenStream} {start : Nat}

/-- Whether there is a terminal for each token, where the end marker may be left out. -/
def Grammar.Covers (g : Grammar) (s : TokenStream) (w : List Nat) : Prop :=
  (w.length = s.input.size ∨ w.length = s.size) ∧ g.AcceptsPrefix s w

theorem Replays.resume_framed {p m zs us : List Symbol} {h k : List Nat}
    (hp : Replays g p h [.nonTerminal start, .endMarker] zs)
    (hm : Replays g m (h ++ k) [.nonTerminal start] us) (hu : k = [] → us = []) :
    ∃ ys n, zs = ys ++ [.endMarker] ∧ m = p ++ n ∧ Replays g n k ys us := by
  have hf : Replays g p h ([.nonTerminal start] ++ [.endMarker]) zs := hp
  obtain ⟨ys, rfl, hr⟩ := hf.unframe
  obtain ⟨n, rfl, hn⟩ := hr.resume hm hu
  exact ⟨ys, n, rfl, rfl, hn⟩

/--
A replay that a search which has made `n` choices has still to get to: its terminals accept tokens,
and it makes more choices unless it is complete and covers all tokens.
-/
structure Grammar.Sought (g : Grammar) (s : TokenStream) (start n : Nat) (m : List Symbol)
    (k : List Nat) (us : List Symbol) : Prop where
  replays : Replays g m k [.nonTerminal start] us
  accepts : g.AcceptsPrefix s (terminalsOf m)
  covers : k.length ≤ n → us = [] ∧ g.Covers s (terminalsOf m)

theorem Grammar.sought_of_covers {m : List Symbol} {k : List Nat}
    (h : Replays g m k [.nonTerminal start] []) (hw : g.Covers s (terminalsOf m)) (n : Nat) :
    g.Sought s start n m k [] where
  replays := h
  accepts := hw.2
  covers := fun _ ↦ ⟨rfl, hw⟩

namespace Configuration

variable {c c' : Configuration} {m us : List Symbol} {h k : List Nat} {n : Nat}

/-- Whether the search is done with the derivations that make the choices `k`. -/
def Passed (c : Configuration) (k : List Nat) : Prop :=
  match c.mode with
  | .matching | .success => BranchesBefore k c.history.bottomUp
  | .backtrack => BranchesBefore k c.history.bottomUp ∨ c.history.bottomUp <+: k
  | .fail => True

theorem exists_rest_of_sought {p zs : List Symbol}
    (hp : Replays g p h [.nonTerminal start, .endMarker] zs) (hm : g.Sought s start n m k us)
    (hn : h.length ≤ n) (hk : h <+: k) :
    ∃ l ys p', k = h ++ l ∧ zs = ys ++ [.endMarker] ∧ m = p ++ p' ∧ Replays g p' l ys us ∧
      (l = [] → us = [] ∧ g.Covers s (terminalsOf m)) := by
  obtain ⟨l, rfl⟩ := hk
  have hu : l = [] → us = [] ∧ g.Covers s (terminalsOf m) := by
    rintro rfl
    exact hm.covers (by rwa [List.append_nil])
  obtain ⟨ys, p', hz, he, hr⟩ := hp.resume_framed hm.replays fun hl ↦ (hu hl).1
  exact ⟨l, ys, p', rfl, hz, he, hr, hu⟩

theorem acceptsAt_of_sought {p rest : List Symbol} {id cursor : Nat}
    (hp : Replays g p h [.nonTerminal start, .endMarker] (.terminal id :: rest))
    (hcur : cursor = (terminalsOf p).length) (hm : g.Sought s start n m k us)
    (hn : h.length ≤ n) (hk : h <+: k) : g.AcceptsAt s cursor id := by
  obtain ⟨l, ys, p', -, hz, rfl, hr, hu⟩ := exists_rest_of_sought hp hm hn hk
  cases ys with
  | nil => cases hz
  | cons y ys =>
    obtain ⟨rfl, -⟩ := List.cons.inj hz
    cases hr with
    | nil => cases (hu rfl).1
    | terminal _ rest =>
      refine hm.accepts cursor id ?_
      simp [hcur]

theorem le_cursor_of_sought {p rest : List Symbol} {cursor : Nat}
    (hp : Replays g p h [.nonTerminal start, .endMarker] (.endMarker :: rest))
    (hcur : cursor = (terminalsOf p).length) (hm : g.Sought s start n m k us)
    (hn : h.length ≤ n) (hk : h <+: k) : rest = [] ∧ s.input.size ≤ cursor := by
  obtain ⟨l, ys, p', -, hz, rfl, hr, hu⟩ := exists_rest_of_sought hp hm hn hk
  cases ys with
  | nil =>
    obtain ⟨rfl, rfl, -⟩ := hr.of_nil_left
    have hlen := (hu rfl).2.1
    rw [List.append_nil, ← hcur] at hlen
    refine ⟨(List.cons.inj hz).2, ?_⟩
    unfold TokenStream.size at hlen
    omega
  | cons y ys =>
    obtain ⟨rfl, -⟩ := List.cons.inj hz
    cases hr
    cases (hu rfl).1

theorem branches_of_sought {p rest : List Symbol} {id i : Nat}
    (hp : Replays g p h [.nonTerminal start, .endMarker] (.nonTerminal id :: rest))
    (last : (g.alternativesOf id)[i + 1]? = none) (hm : g.Sought s start n m k us)
    (hn : h.length ≤ n) (hk : h <+: k) : BranchesBefore k (h ++ [i]) ∨ h ++ [i] <+: k := by
  obtain ⟨l, ys, p', rfl, hz, rfl, hr, hu⟩ := exists_rest_of_sought hp hm hn hk
  cases ys with
  | nil => cases hz
  | cons y ys =>
    obtain ⟨rfl, -⟩ := List.cons.inj hz
    cases hr with
    | nil => cases (hu rfl).1
    | nonTerminal hj rest =>
      refine BranchesBefore.concat_or_isPrefix ?_ _
      have hlt := (List.getElem?_eq_some_iff.mp hj).1
      have hle := List.getElem?_eq_none_iff.mp last
      omega

theorem not_passed_initial : ¬ (initial start).Passed k :=
  BranchesBefore.not_nil

theorem Step.not_passed (hs : Step g s c c') (hc : c.Invariant g s start)
    (hm : g.Sought s start n m k us) (hn : c.history.size ≤ n) (hk : ¬ c.Passed k) :
    ¬ c'.Passed k := by
  obtain ⟨hr, -, hcur, -⟩ := hc
  rw [← Stack.length_bottomUp] at hn
  cases hs with
  | expansion first =>
    simp only [Passed, Stack.bottomUp_push, BranchesBefore.concat_iff, Nat.not_lt_zero, false_and,
      exists_false, or_false] at hk ⊢
    exact hk
  | consume accepted => exact hk
  | acceptance consumed => exact hk
  | mismatch refused =>
    rintro (h | h)
    · exact hk h
    · exact refused (acceptsAt_of_sought hr hcur hm hn h)
  | @earlyEnd cursor matched pending history transition exhausted early =>
    rintro (h | h)
    · exact hk h
    · obtain ⟨hp, hle⟩ := le_cursor_of_sought hr hcur hm hn h
      rcases early with he | hlt
      · exact he (Stack.ext hp)
      · exact Nat.not_lt.mpr hle hlt
  | retreat => exact hk
  | nextAlternative current other =>
    simp only [Passed, Stack.bottomUp_push] at hk ⊢
    intro h
    rcases BranchesBefore.concat_iff.mp h with h | ⟨j, e, hj, rfl⟩
    · exact hk (.inl (BranchesBefore.concat_iff.mpr (.inl h)))
    · exact hk (BranchesBefore.concat_or_isPrefix (Nat.le_of_lt_succ hj) e)
  | @reject cursor pending history transition exhausted id i alternative current last =>
    simp only [Passed, Stack.bottomUp_push, List.length_append] at hr hn hk ⊢
    obtain ⟨alternative, rest, -, -, hr⟩ := hr.concat_nonTerminal
    obtain ⟨he, -⟩ := hr.of_nil
    -- A replay from the start has no choices before the one of the start symbol.
    refine fun _ ↦ hk (branches_of_sought hr last hm (Nat.le_of_add_right_le hn) ?_)
    rw [he]
    exact List.nil_prefix
  | escalate current last inner =>
    simp only [Passed, Stack.bottomUp_push, List.length_append] at hr hn hk ⊢
    obtain ⟨alternative, rest, -, -, hr⟩ := hr.concat_nonTerminal
    rintro (h | h)
    · exact hk (.inl (BranchesBefore.concat_iff.mpr (.inl h)))
    · exact hk (branches_of_sought hr last hm (Nat.le_of_add_right_le hn) h)

theorem Step.size_history_le (h : Step g s c c') : c'.history.size ≤ c.history.size + 1 := by
  cases h <;> simp only [Stack.size_push] <;> omega

/-- Each step makes at most one choice more, and so gets past nothing that is sought. -/
theorem Run.not_passed_of_le {n' : Nat} (h : Run g s n c c') (hc : c.Invariant g s start)
    (hm : g.Sought s start n' m k us) (hn : c.history.size + n ≤ n') (hk : ¬ c.Passed k) :
    ¬ c'.Passed k := by
  induction h with
  | zero => exact hk
  | cons hs h ih =>
    have hs := step_eq_ok_iff.mp hs
    have hsize := hs.size_history_le
    exact ih (hs.invariant hc) (by omega) (hs.not_passed hc hm (by omega) hk)

theorem Run.not_passed (h : Run g s n (initial start) c) (hm : g.Sought s start n m k us) :
    ¬ c.Passed k :=
  h.not_passed_of_le invariant_initial hm (Nat.zero_add n).le not_passed_initial

theorem Passed.of_fail (hf : c.mode = .fail) : c.Passed k := by
  unfold Passed
  rw [hf]
  trivial

theorem Run.length_le_of_fail (h : Run g s n (initial start) c) (hf : c.mode = .fail)
    (hm : Replays g m k [.nonTerminal start] us) (hw : g.AcceptsPrefix s (terminalsOf m)) :
    k.length ≤ n := by
  by_contra hlt
  exact h.not_passed ⟨hm, hw, fun hle ↦ absurd hle hlt⟩ (.of_fail hf)

theorem Run.pending_of_success (h : Run g s n (initial start) c) (hm : c.mode = .success) :
    c.pending = Stack.empty.push .endMarker ∧ s.input.size ≤ c.cursor := by
  revert hm
  refine h.preserves (P := fun c ↦ c.mode = .success → c.pending = Stack.empty.push .endMarker ∧
    s.input.size ≤ c.cursor) (fun c d _ hs hd ↦ ?_) nofun
  cases hs with
  | acceptance consumed => exact ⟨rfl, consumed⟩
  | _ => cases hd

theorem Run.replays_of_success (h : Run g s n (initial start) c) (hm : c.mode = .success) :
    Replays g c.matched.bottomUp c.history.bottomUp [.nonTerminal start] [] ∧
      g.Covers s (terminalsOf c.matched.bottomUp) := by
  obtain ⟨hp, hcur⟩ := h.pending_of_success hm
  have hc := h.invariant
  have hr : Replays g _ _ ([.nonTerminal start] ++ [.endMarker]) _ := hc.replays
  obtain ⟨ys, hy, hr⟩ := hr.unframe
  rw [hp, Stack.values_push, Stack.values_empty] at hy
  have hn : ys = [] := by simpa using congrArg List.length hy
  refine ⟨hn ▸ hr, ?_, hc.accepts⟩
  have hle := hc.cursor_le
  rw [hc.cursor_eq] at hle hcur
  unfold TokenStream.size at hle ⊢
  omega

theorem Run.not_covers_of_fail (h : Run g s n (initial start) c) (hf : c.mode = .fail)
    (hm : Replays g m k [.nonTerminal start] []) : ¬ g.Covers s (terminalsOf m) := by
  intro hw
  exact h.not_passed (Grammar.sought_of_covers hm hw n) (.of_fail hf)

theorem Run.history_le_of_success (h : Run g s n (initial start) c) (hf : c.mode = .success)
    (hm : Replays g m k [.nonTerminal start] []) (hw : g.Covers s (terminalsOf m)) :
    (m = c.matched.bottomUp ∧ k = c.history.bottomUp) ∨ c.history.bottomUp < k := by
  have hp := h.not_passed (Grammar.sought_of_covers hm hw n)
  obtain ⟨hr, -⟩ := h.replays_of_success hf
  unfold Passed at hp
  rw [hf] at hp
  rcases BranchesBefore.trichotomy k c.history.bottomUp with hk | hk | hk | hk
  · obtain ⟨he, hk⟩ := hm.eq_of_isPrefix hr hk
    exact .inl ⟨he.symm, hk.symm⟩
  · exact .inl (hr.eq_of_isPrefix hm hk)
  · exact absurd hk hp
  · exact .inr hk.lt

end Configuration

end TopDown
