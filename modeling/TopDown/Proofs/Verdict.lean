import TopDown.Proofs.SearchOrder

namespace TopDown

open TopDown.Configuration TopDown.Symbol

variable {g : Grammar} {s : TokenStream} {start n : Nat} {c : Configuration}

theorem Configuration.Run.derives_of_success (h : Run g s n (.initial start) c)
    (hm : c.mode = .success) :
    ∃ w, g.Derives [.nonTerminal start] (w.map .terminal) ∧ g.Covers s w := by
  obtain ⟨hr, hw⟩ := h.replays_of_success hm
  exact ⟨_, Grammar.derives_iff_exists_replays.mpr ⟨_, _, hr, rfl⟩, hw⟩

theorem Configuration.Run.not_derives_of_fail (h : Run g s n (.initial start) c)
    (hm : c.mode = .fail) :
    ¬ ∃ w, g.Derives [.nonTerminal start] (w.map .terminal) ∧ g.Covers s w := by
  rintro ⟨w, hd, hw⟩
  obtain ⟨m, k, hr, rfl⟩ := hd.exists_replays
  exact h.not_covers_of_fail hm hr hw

/-- A parse that ends accepts if the start symbol derives the tokens, and rejects if it does not. -/
theorem verdict_iff_derives (h : Run g s n (.initial start) c) (hf : c.isFinal = true) :
    (c.mode = .success ↔
      ∃ w, g.Derives [.nonTerminal start] (w.map .terminal) ∧ g.Covers s w) ∧
    (c.mode = .fail ↔
      ¬ ∃ w, g.Derives [.nonTerminal start] (w.map .terminal) ∧ g.Covers s w) := by
  cases hm : c.mode with
  | matching | backtrack => simp [isFinal, hm, Mode.isFinal] at hf
  | success =>
    have hd := h.derives_of_success hm
    simp only [hd, not_true_eq_false, reduceCtorEq, and_self]
  | fail =>
    have hd := h.not_derives_of_fail hm
    simp only [hd, not_false_eq_true, reduceCtorEq, and_self]

theorem verdict_iff_derives_oneOrTwo :
    Run .oneOrTwo (.ofTokens ["a", "a", "b"] "#") 10 (.initial 0)
      ⟨.success, 3, .ofList [.nonTerminal 0, .nonTerminal 1, .terminal 1, .terminal 1, .terminal 0],
        .ofList [.endMarker], .ofList [0, 1], .acceptance, false⟩ ∧
    ∃ w, Grammar.oneOrTwo.Derives [.nonTerminal 0] (w.map .terminal) ∧
      Grammar.oneOrTwo.Covers (.ofTokens ["a", "a", "b"] "#") w := by
  have h : Run .oneOrTwo (.ofTokens ["a", "a", "b"] "#") 10 (.initial 0)
      ⟨.success, 3, .ofList [.nonTerminal 0, .nonTerminal 1, .terminal 1, .terminal 1, .terminal 0],
        .ofList [.endMarker], .ofList [0, 1], .acceptance, false⟩ := by decide +kernel
  exact ⟨h, (verdict_iff_derives h rfl).1.mp rfl⟩

namespace Trace

variable {t : Trace} {limits : Limits} {clock : Nat → Nat} {patience : Nat}

theorem derivation?_of_success (ht : t.last.mode = .success) :
    t.derivation? g = some (choices g t.last.matched.bottomUp t.last.history.bottomUp) := by
  unfold derivation?
  rw [if_pos (by rw [accepted, ht]; rfl)]
  rfl

theorem derivation?_of_fail (ht : t.last.mode = .fail) : t.derivation? g = none := by
  unfold derivation?
  rw [if_neg (by rw [accepted, ht]; decide)]

end Trace

/--
The derivation that an accepting parse reports is a leftmost one of what it has consumed, and its
choices come before those of all others that cover the tokens.
-/
theorem derivation_least {t : Trace} {limits : Limits} {clock : Nat → Nat} {patience : Nat}
    (h : g.parseStream? s start limits clock patience = some (.ok t)) :
    (t.last.mode = .success → ∃ d, t.derivation? g = some d ∧
      d.length = (nonTerminalsOf t.last.matched.bottomUp).length ∧
      g.LeftmostDerivation d [.nonTerminal start]
        ((terminalsOf t.last.matched.bottomUp).map .terminal) ∧
      (terminalsOf t.last.matched.bottomUp).length = t.last.cursor ∧
      g.Covers s (terminalsOf t.last.matched.bottomUp) ∧
      ∀ d' w, g.LeftmostDerivation d' [.nonTerminal start] (w.map .terminal) → g.Covers s w →
        d' ≠ d → d.map Prod.snd < d'.map Prod.snd) ∧
    (t.last.mode = .fail → t.derivation? g = none) := by
  obtain ⟨n, hn⟩ := Trace.returns_of_extend?_eq h
  obtain ⟨-, hrun⟩ := hn.run
  have hrun : Run g s _ (.initial start) t.last := hrun
  refine ⟨fun hm ↦ ?_, Trace.derivation?_of_fail⟩
  obtain ⟨hr, hw⟩ := hrun.replays_of_success hm
  have hd := hr.leftmostDerivation
  rw [List.append_nil] at hd
  refine ⟨_, Trace.derivation?_of_success hm, hr.length_choices, hd,
    hrun.invariant.cursor_eq.symm, hw, fun d' w hd' hw' hne ↦ ?_⟩
  obtain ⟨m', k', hr', rfl, rfl⟩ := hd'.exists_replays
  rw [hr.map_snd_choices, hr'.map_snd_choices]
  refine (hrun.history_le_of_success hm hr' hw').resolve_left ?_
  rintro ⟨rfl, rfl⟩
  exact hne rfl

theorem derivation_least_oneOrTwo :
    ∃ t, Grammar.oneOrTwo.parseStream? (.ofTokens ["a", "a", "b"] "#") 0 {} (fun _ ↦ 0) 0 =
        some (.ok t) ∧
      t.last.mode = .success ∧ t.derivation? .oneOrTwo = some [("S", 0), ("A", 1)] ∧
      ∀ d w, Grammar.oneOrTwo.LeftmostDerivation d [.nonTerminal 0] (w.map .terminal) →
        Grammar.oneOrTwo.Covers (.ofTokens ["a", "a", "b"] "#") w →
        d ≠ [("S", 0), ("A", 1)] → [0, 1] < d.map Prod.snd := by
  have hp : (Grammar.oneOrTwo.parseStream? (.ofTokens ["a", "a", "b"] "#") 0 {} (fun _ ↦ 0) 0).any
      (·.toOption.any fun t ↦ t.last.mode == .success &&
        t.derivation? .oneOrTwo == some [("S", 0), ("A", 1)]) = true := by decide +kernel
  obtain ⟨e | t, ht, hd⟩ := (Option.any_eq_true _ _).mp hp
  · cases hd
  obtain ⟨hm, hd⟩ : t.last.mode = .success ∧
      t.derivation? .oneOrTwo = some [("S", 0), ("A", 1)] := by
    simpa [Except.toOption] using hd
  obtain ⟨d, hd', -, -, -, -, hleast⟩ := (derivation_least ht).1 hm
  cases hd.symm.trans hd'
  exact ⟨t, ht, hm, hd, hleast⟩

end TopDown
