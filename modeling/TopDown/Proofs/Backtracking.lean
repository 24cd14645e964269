import TopDown.Proofs.SearchPath

namespace TopDown

open TopDown.Symbol

namespace Transition

def dealing : Symbol → Transition
  | .nonTerminal _ => .expansion
  | .terminal _ | .endMarker => .match

def undone? : Transition → Option Transition
  | .retreat => some .match
  | .escalate => some .expansion
  | _ => none

end Transition

def choice? (turn : Symbol × Nat) : Option Nat :=
  if turn.1.isNonTerminal then some turn.2 else none

theorem filterMap_choice?_turnsOf {m : List Symbol} {k : List Nat}
    (h : k.length = (nonTerminalsOf m).length) : (turnsOf m k).filterMap choice? = k := by
  induction m, k using turnsOf.induct with
  | case1 k => exact (List.length_eq_zero_iff.mp h).symm
  | case2 id below i history ih =>
    have hi : choice? (.nonTerminal id, i) = some i := rfl
    rw [turnsOf, List.filterMap_cons_some hi, ih (Nat.succ.inj h)]
  | case3 x below k hx ih =>
    cases x with
    | nonTerminal id =>
      cases k with
      | nil => cases h
      | cons i k => exact (hx id i k rfl rfl).elim
    | terminal | endMarker => exact ih h

namespace Configuration

variable {g : Grammar} {s : TokenStream} {b c d e : Configuration} {start i k m n : Nat}
  {x : Symbol} {below : List (Symbol × Nat)} {t : Transition}

structure Agrees (c d : Configuration) : Prop where
  cursor_eq : c.cursor = d.cursor
  matched_eq : c.matched = d.matched
  pending_eq : c.pending = d.pending
  history_eq : c.history = d.history

theorem Invariant.filterMap_turns (hc : c.Invariant g s start) :
    c.turns.filterMap choice? = c.history.values := by
  refine filterMap_choice?_turnsOf ?_
  have hlen := hc.replays.length_history
  rwa [Stack.bottomUp, Stack.bottomUp, nonTerminalsOf, List.filterMap_reverse, List.length_reverse,
    List.length_reverse] at hlen

theorem Invariant.agrees (hc : c.Invariant g s start) (hd : d.Invariant g s start)
    (h : c.turns = d.turns) : c.Agrees d := by
  have hmatched : c.matched = d.matched := by
    refine Stack.ext ?_
    rw [← map_fst_turns, ← map_fst_turns, h]
  have hhistory : c.history = d.history := by
    refine Stack.ext ?_
    rw [← hc.filterMap_turns, ← hd.filterMap_turns, h]
  refine ⟨?_, hmatched, ?_, hhistory⟩
  · rw [hc.cursor_eq, hd.cursor_eq, hmatched]
  · have hr := hc.replays
    rw [hmatched, hhistory] at hr
    exact Stack.ext (hr.eq_of_same hd.replays)

theorem Step.eq_cons_of_lt (h : Step g s c d) (hlt : c.turns.length < d.turns.length) :
    ∃ x, d.turns = (x, 0) :: c.turns ∧ d.transition = .dealing x := by
  cases h with
  | expansion => exact ⟨_, rfl, rfl⟩
  | consume => exact ⟨_, rfl, rfl⟩
  | acceptance | mismatch | earlyEnd | nextAlternative | reject =>
    exact absurd hlt (Nat.lt_irrefl _)
  | retreat | escalate => exact absurd hlt (Nat.not_lt.mpr (Nat.le_succ _))

theorem Step.eq_cons_of_undone (h : Step g s c d) (ht : d.transition.undone? = some t) :
    ∃ x i, c.turns = (x, i) :: d.turns ∧ t = .dealing x := by
  cases h with
  | retreat | escalate =>
    cases ht
    exact ⟨_, _, rfl, rfl⟩
  | _ => cases ht

/-- Whether a symbol is still dealt with, above what was dealt with before it. -/
def Keeps (x : Symbol) (below : List (Symbol × Nat)) (c : Configuration) : Prop :=
  ∃ i, (x, i) :: below <:+ c.turns

theorem Step.keeps (h : Step g s c d) (hc : c.Keeps x below)
    (hd : below.length < d.turns.length) : d.Keeps x below := by
  obtain ⟨i, hi⟩ := hc
  cases h with
  | expansion | consume => exact ⟨i, hi.trans (List.suffix_cons _ _)⟩
  | acceptance | mismatch | earlyEnd | reject => exact ⟨i, hi⟩
  | retreat | escalate => exact ⟨i, List.suffix_of_suffix_length_le hi (List.suffix_cons _ _) hd⟩
  | nextAlternative =>
    rcases List.suffix_cons_iff.mp hi with he | hi
    · cases he
      exact ⟨i + 1, List.suffix_rfl⟩
    · exact ⟨i, hi.trans (List.suffix_cons _ _)⟩

/-- Whether more than `k` symbols are dealt with from a configuration on, for `n` steps. -/
def StaysAbove (g : Grammar) (s : TokenStream) (k n : Nat) (c : Configuration) : Prop :=
  ∀ m e, m ≤ n → Run g s m c e → k < e.turns.length

theorem Step.staysAbove (hs : Step g s c d) (hc : k < c.turns.length)
    (hd : d.StaysAbove g s k n) : c.StaysAbove g s k (n + 1) := by
  intro m e hm hr
  cases hr with
  | zero => exact hc
  | cons hs' hr =>
    cases hs.step_eq.symm.trans hs'
    exact hd _ e (Nat.le_of_succ_le_succ hm) hr

theorem Run.staysAbove_or (h : Run g s n c e) (he : k < e.turns.length) :
    c.StaysAbove g s k n ∨ ∃ i m b d, n = i + 1 + m ∧ Run g s i c b ∧ Step g s b d ∧
      b.turns.length ≤ k ∧ d.StaysAbove g s k m := by
  induction h with
  | zero =>
    refine .inl fun m e hm hr ↦ ?_
    cases Nat.le_zero.mp hm
    cases hr
    exact he
  | @cons n c d e hs h ih =>
    have hs := step_eq_ok_iff.mp hs
    obtain ha | ⟨i, m, b, d', rfl, hr, hs', hb, ha⟩ := ih he
    · by_cases hc : k < c.turns.length
      · exact .inl (hs.staysAbove hc ha)
      · exact .inr ⟨0, n, c, d, by omega, .zero c, hs, Nat.not_lt.mp hc, ha⟩
    · exact .inr ⟨i + 1, m, b, d', by omega, .cons hs.step_eq hr, hs', hb, ha⟩

theorem Run.keeps (h : Run g s n c d) (hc : c.Keeps x below)
    (ha : c.StaysAbove g s below.length n) : d.Keeps x below := by
  induction h with
  | zero => exact hc
  | cons hs h ih =>
    refine ih ((step_eq_ok_iff.mp hs).keeps hc (ha 1 _ (by omega) (.one hs))) fun m e hm hr ↦ ?_
    exact ha (m + 1) e (by omega) (.cons hs hr)

end Configuration

open TopDown.Configuration

variable {g : Grammar} {s : TokenStream} {start n : Nat} {d : Configuration} {t : Transition}

/--
A step that gives back a token or a choice leads to the state before that token was consumed or that
choice was first made, and all configurations between the two have more symbols dealt with.
-/
theorem undo_restores (h : Run g s n (.initial start) d) (ht : d.transition.undone? = some t) :
    ∃ i c c', i + 1 < n ∧ Run g s i (.initial start) c ∧ Run g s (i + 1) (.initial start) c' ∧
      c'.transition = t ∧ c.Agrees d ∧
      ∀ m e, i < m → m < n → Run g s m (.initial start) e → c.matched.size < e.matched.size := by
  cases n with
  | zero =>
    cases h
    cases ht
  | succ n =>
    obtain ⟨b, hb, hlast⟩ := h.exists_last
    obtain ⟨x, i, hbt, rfl⟩ := hlast.eq_cons_of_undone ht
    have hlt : d.turns.length < b.turns.length := by
      rw [hbt]
      exact Nat.lt_succ_self _
    -- The last step before which there were no more symbols than at the end dealt with `x`.
    obtain ha | ⟨i, m, c, c', rfl, hc, hs, hle, ha⟩ := hb.staysAbove_or hlt
    · exact absurd (ha 0 _ (Nat.zero_le _) (.zero _)) (Nat.not_lt_zero _)
    have hd := ha 0 _ (Nat.zero_le _) (.zero _)
    obtain ⟨y, hct, htr⟩ := hs.eq_cons_of_lt (hle.trans_lt hd)
    have hlen : c.turns.length = d.turns.length := by
      rw [hct, List.length_cons] at hd
      omega
    have hc' := hc.trans (.one hs.step_eq)
    have hkeeps : c'.Keeps y c.turns := ⟨0, hct ▸ List.suffix_rfl⟩
    obtain ⟨j, hj⟩ := (hc'.rest hb).keeps hkeeps (hlen ▸ ha)
    rw [hbt] at hj
    have he : (y, j) :: c.turns = (x, _) :: d.turns := hj.eq_of_length (by simp [hlen])
    obtain ⟨hxy, hcd⟩ := List.cons.inj he
    cases hxy
    refine ⟨i, c, c', by omega, hc, hc', htr, hc.invariant.agrees h.invariant hcd, ?_⟩
    intro k e hik hkn hr
    obtain ⟨l, rfl⟩ := Nat.exists_eq_add_of_le hik
    rw [← length_turns, ← length_turns, hlen]
    exact ha l e (by omega) (hc'.rest hr)

/-- Both alternatives of `A` are tried in vain, and what is left is `S` with `A` to come. -/
theorem undo_restores_oneOrTwo :
    ∃ d, Run .oneOrTwo (.ofTokens ["a", "a", "c"] "#") 12 (.initial 0) d ∧
      d.transition.undone? = some .expansion ∧
      ∃ i c c', i + 1 < 12 ∧ Run .oneOrTwo (.ofTokens ["a", "a", "c"] "#") i (.initial 0) c ∧
        Run .oneOrTwo (.ofTokens ["a", "a", "c"] "#") (i + 1) (.initial 0) c' ∧
        c'.transition = .expansion ∧ c.Agrees d ∧
        ∀ m e, i < m → m < 12 → Run .oneOrTwo (.ofTokens ["a", "a", "c"] "#") m (.initial 0) e →
          c.matched.size < e.matched.size := by
  let d : Configuration := ⟨.backtrack, 0, .ofList [.nonTerminal 0],
    .ofList [.endMarker, .terminal 0, .nonTerminal 1], .ofList [0], .escalate, true⟩
  have hr : Run .oneOrTwo (.ofTokens ["a", "a", "c"] "#") 12 (.initial 0) d := by decide +kernel
  exact ⟨d, hr, rfl, undo_restores hr rfl⟩

end TopDown
