import Mathlib.Order.Basic
import TopDown.Parsing.Run

namespace TopDown

def Grammar.AcceptsAt (g : Grammar) (s : TokenStream) (i terminal : Nat) : Prop :=
  ∃ token, s.get? i = some token ∧ g.accepts terminal token = true

namespace Configuration

variable {g : Grammar} {s : TokenStream}

theorem acceptsToken_iff {c : Configuration} {id : Nat} :
    c.acceptsToken g s id = true ↔ g.AcceptsAt s c.cursor id := by
  unfold acceptsToken Grammar.AcceptsAt
  cases s.get? c.cursor <;> simp

/-- What a step can do. Each rule shows the stacks before and after, with their tops last. -/
inductive Step (g : Grammar) (s : TokenStream) : Configuration → Configuration → Prop
  | expansion {cursor : Nat} {matched pending : Stack Symbol} {history : Stack Nat}
      {transition : Transition} {exhausted : Bool} {id : Nat} {alternative : List Symbol}
      (first : (g.alternativesOf id)[0]? = some alternative) :
      Step g s
        ⟨.matching, cursor, matched, pending.push (.nonTerminal id), history, transition, exhausted⟩
        ⟨.matching, cursor, matched.push (.nonTerminal id), pending.pushAll alternative,
          history.push 0, .expansion, false⟩
  | consume {cursor : Nat} {matched pending : Stack Symbol} {history : Stack Nat}
      {transition : Transition} {exhausted : Bool} {id : Nat}
      (accepted : g.AcceptsAt s cursor id) :
      Step g s
        ⟨.matching, cursor, matched, pending.push (.terminal id), history, transition, exhausted⟩
        ⟨.matching, cursor + 1, matched.push (.terminal id), pending, history, .match, false⟩
  | acceptance {cursor : Nat} {matched : Stack Symbol} {history : Stack Nat}
      {transition : Transition} {exhausted : Bool} (consumed : s.input.size ≤ cursor) :
      Step g s
        ⟨.matching, cursor, matched, Stack.empty.push .endMarker, history, transition, exhausted⟩
        ⟨.success, cursor, matched, Stack.empty.push .endMarker, history, .acceptance, exhausted⟩
  | mismatch {cursor : Nat} {matched pending : Stack Symbol} {history : Stack Nat}
      {transition : Transition} {exhausted : Bool} {id : Nat}
      (refused : ¬ g.AcceptsAt s cursor id) :
      Step g s
        ⟨.matching, cursor, matched, pending.push (.terminal id), history, transition, exhausted⟩
        ⟨.backtrack, cursor, matched, pending.push (.terminal id), history, .mismatch, exhausted⟩
  | earlyEnd {cursor : Nat} {matched pending : Stack Symbol} {history : Stack Nat}
      {transition : Transition} {exhausted : Bool}
      (early : pending ≠ .empty ∨ cursor < s.input.size) :
      Step g s
        ⟨.matching, cursor, matched, pending.push .endMarker, history, transition, exhausted⟩
        ⟨.backtrack, cursor, matched, pending.push .endMarker, history, .mismatch, exhausted⟩
  | retreat {cursor : Nat} {matched pending : Stack Symbol} {history : Stack Nat}
      {transition : Transition} {exhausted : Bool} {id : Nat} :
      Step g s
        ⟨.backtrack, cursor + 1, matched.push (.terminal id), pending, history, transition,
          exhausted⟩
        ⟨.backtrack, cursor, matched, pending.push (.terminal id), history, .retreat, exhausted⟩
  | nextAlternative {cursor : Nat} {matched pending : Stack Symbol} {history : Stack Nat}
      {transition : Transition} {exhausted : Bool}
      {id i : Nat} {alternative next : List Symbol}
      (current : (g.alternativesOf id)[i]? = some alternative)
      (other : (g.alternativesOf id)[i + 1]? = some next) :
      Step g s
        ⟨.backtrack, cursor, matched.push (.nonTerminal id), pending.pushAll alternative,
          history.push i, transition, exhausted⟩
        ⟨.matching, cursor, matched.push (.nonTerminal id), pending.pushAll next,
          history.push (i + 1), .nextAlternative, false⟩
  | reject {cursor : Nat} {pending : Stack Symbol} {history : Stack Nat} {transition : Transition}
      {exhausted : Bool} {id i : Nat} {alternative : List Symbol}
      (current : (g.alternativesOf id)[i]? = some alternative)
      (last : (g.alternativesOf id)[i + 1]? = none) :
      Step g s
        ⟨.backtrack, cursor, Stack.empty.push (.nonTerminal id), pending.pushAll alternative,
          history.push i, transition, exhausted⟩
        ⟨.fail, cursor, Stack.empty.push (.nonTerminal id), pending.pushAll alternative,
          history.push i, .reject, true⟩
  | escalate {cursor : Nat} {matched pending : Stack Symbol} {history : Stack Nat}
      {transition : Transition} {exhausted : Bool}
      {id i : Nat} {alternative : List Symbol}
      (current : (g.alternativesOf id)[i]? = some alternative)
      (last : (g.alternativesOf id)[i + 1]? = none) (inner : matched ≠ .empty) :
      Step g s
        ⟨.backtrack, cursor, matched.push (.nonTerminal id), pending.pushAll alternative,
          history.push i, transition, exhausted⟩
        ⟨.backtrack, cursor, matched, pending.push (.nonTerminal id), history, .escalate, true⟩

theorem Step.step_eq {c d : Configuration} (h : Step g s c d) : c.step g s = .ok d := by
  cases h with
  | @expansion cursor matched pending history transition exhausted id alternative first =>
    obtain ⟨others, ho⟩ : ∃ others, g.alternativesOf id = alternative :: others := by
      cases ha : g.alternativesOf id with
      | nil => simp [ha] at first
      | cons a others => exact ⟨others, by simpa [ha] using first⟩
    simp only [step, matchingStep, Stack.pop?_push, ho]
  | consume accepted =>
    simp only [step, matchingStep, Stack.pop?_push, acceptsToken_iff, accepted, if_true]
  | acceptance consumed =>
    simp only [step, matchingStep, Stack.pop?_push, Bool.and_eq_true, Stack.isEmpty_iff, true_and,
      decide_eq_true_eq, ge_iff_le, consumed, if_true]
  | mismatch refused =>
    simp only [step, matchingStep, Stack.pop?_push, acceptsToken_iff, refused, if_false]
  | @earlyEnd cursor matched pending history transition exhausted early =>
    have h : ¬ (pending = .empty ∧ s.input.size ≤ cursor) := by
      rintro ⟨hp, hc⟩
      exact early.elim (· hp) (by omega)
    simp only [step, matchingStep, Stack.pop?_push, Bool.and_eq_true, Stack.isEmpty_iff,
      decide_eq_true_eq, ge_iff_le, h, if_false]
  | retreat => simp only [step, backtrackStep, Stack.pop?_push]
  | nextAlternative current other =>
    simp only [step, backtrackStep, changeChoice, Stack.pop?_push, current, other,
      Stack.dropAll?_eq_some_iff.mpr rfl]
  | reject current last =>
    simp only [step, backtrackStep, changeChoice, Stack.pop?_push, current, last,
      Stack.dropAll?_eq_some_iff.mpr rfl, Stack.isEmpty_iff, if_true]
  | escalate current last inner =>
    simp only [step, backtrackStep, changeChoice, Stack.pop?_push, current, last,
      Stack.dropAll?_eq_some_iff.mpr rfl, Stack.isEmpty_iff, inner, if_false]

theorem Step.of_matchingStep {c d : Configuration} (hm : c.mode = .matching)
    (h : c.matchingStep g s = .ok d) : Step g s c d := by
  obtain ⟨mode, cursor, matched, pending, history, transition, exhausted⟩ := c
  cases hm
  obtain rfl | ⟨rest, x, rfl⟩ := pending.eq_empty_or_push
  · simp [matchingStep] at h
  cases x with
  | nonTerminal id =>
    simp only [matchingStep, Stack.pop?_push] at h
    cases ha : g.alternativesOf id with
    | nil => simp [ha] at h
    | cons first others =>
      simp only [ha, Except.ok.injEq] at h
      rw [← h]
      exact .expansion (by rw [ha]; rfl)
  | terminal id =>
    simp only [matchingStep, Stack.pop?_push] at h
    by_cases ha : g.AcceptsAt s cursor id
    · rw [if_pos (acceptsToken_iff.mpr ha), Except.ok.injEq] at h
      rw [← h]
      exact .consume ha
    · rw [if_neg (mt acceptsToken_iff.mp ha), Except.ok.injEq] at h
      rw [← h]
      exact .mismatch ha
  | endMarker =>
    simp only [matchingStep, Stack.pop?_push, Bool.and_eq_true, Stack.isEmpty_iff,
      decide_eq_true_eq, ge_iff_le] at h
    by_cases he : rest = .empty ∧ s.input.size ≤ cursor
    · rw [if_pos he, Except.ok.injEq] at h
      rw [← h, he.1]
      exact .acceptance he.2
    · rw [if_neg he, Except.ok.injEq] at h
      rw [← h]
      exact .earlyEnd (by rwa [not_and_or, Nat.not_le] at he)

theorem Step.of_backtrackStep {c d : Configuration} (hm : c.mode = .backtrack)
    (h : c.backtrackStep g = .ok d) : Step g s c d := by
  obtain ⟨mode, cursor, matched, pending, history, transition, exhausted⟩ := c
  cases hm
  obtain rfl | ⟨below, x, rfl⟩ := matched.eq_empty_or_push
  · simp [backtrackStep] at h
  cases x with
  | terminal id =>
    cases cursor with
    | zero => simp [backtrackStep] at h
    | succ cursor =>
      simp only [backtrackStep, Stack.pop?_push, Except.ok.injEq] at h
      rw [← h]
      exact .retreat
  | endMarker => simp [backtrackStep] at h
  | nonTerminal id =>
    obtain rfl | ⟨history, i, rfl⟩ := history.eq_empty_or_push
    · simp [backtrackStep] at h
    simp only [backtrackStep, Stack.pop?_push, changeChoice] at h
    cases hi : (g.alternativesOf id)[i]? with
    | none => simp [hi] at h
    | some alternative =>
      simp only [hi] at h
      cases hd : pending.dropAll? alternative with
      | none => simp [hd] at h
      | some rest =>
        simp only [hd] at h
        obtain rfl := Stack.dropAll?_eq_some_iff.mp hd
        cases hn : (g.alternativesOf id)[i + 1]? with
        | some next =>
          simp only [hn, Except.ok.injEq] at h
          rw [← h]
          exact .nextAlternative hi hn
        | none =>
          simp only [hn, Stack.isEmpty_iff] at h
          by_cases hb : below = .empty
          · rw [if_pos hb, Except.ok.injEq] at h
            rw [← h, hb]
            exact .reject hi hn
          · rw [if_neg hb, Except.ok.injEq] at h
            rw [← h]
            exact .escalate hi hn hb

theorem step_eq_ok_iff {c d : Configuration} : c.step g s = .ok d ↔ Step g s c d := by
  refine ⟨fun h ↦ ?_, Step.step_eq⟩
  unfold step at h
  cases hm : c.mode with
  | matching => exact .of_matchingStep hm (by simpa only [hm] using h)
  | backtrack => exact .of_backtrackStep hm (by simpa only [hm] using h)
  | success => simp [hm] at h
  | fail => simp [hm] at h

theorem isFinal_iff {c : Configuration} :
    c.isFinal = true ↔ c.mode = .success ∨ c.mode = .fail := by
  unfold isFinal Mode.isFinal
  cases c.mode <;> simp

theorem Step.isFinal_eq_false {c d : Configuration} (h : Step g s c d) : c.isFinal = false := by
  cases h <;> rfl

inductive Run (g : Grammar) (s : TokenStream) : Nat → Configuration → Configuration → Prop
  | zero (c : Configuration) : Run g s 0 c c
  | cons {n : Nat} {c d e : Configuration} :
      c.step g s = .ok d → Run g s n d e → Run g s (n + 1) c e

instance decidableRun (g : Grammar) (s : TokenStream) :
    ∀ (n : Nat) (c d : Configuration), Decidable (Run g s n c d)
  | 0, c, d => decidable_of_iff (c = d) ⟨fun h ↦ h ▸ .zero c, fun h ↦ by cases h; rfl⟩
  | n + 1, c, d =>
    match h : c.step g s with
    | .error _ => .isFalse fun hr ↦ by cases hr with | cons hs _ => rw [h] at hs; cases hs
    | .ok e =>
      have := decidableRun g s n e d
      decidable_of_iff (Run g s n e d) ⟨.cons h, fun hr ↦ by
        cases hr with | cons hs hr => exact Except.ok.inj (h.symm.trans hs) ▸ hr⟩

theorem run_zero_iff {c d : Configuration} : Run g s 0 c d ↔ c = d := by
  constructor
  · rintro ⟨⟩
    rfl
  · rintro rfl
    exact .zero c

theorem run_succ_iff {c d e : Configuration} {n : Nat} (h : c.step g s = .ok e) :
    Run g s (n + 1) c d ↔ Run g s n e d := by
  constructor
  · rintro (_ | ⟨he, hr⟩)
    rwa [Except.ok.inj (h.symm.trans he)]
  · exact .cons h

theorem Run.one {c d : Configuration} (h : c.step g s = .ok d) : Run g s 1 c d :=
  .cons h (.zero d)

theorem Run.trans {c d e : Configuration} {n m : Nat} (h : Run g s n c d) (h' : Run g s m d e) :
    Run g s (n + m) c e := by
  induction h with
  | zero => simpa only [Nat.zero_add] using h'
  | cons hs h ih => simpa only [Nat.add_right_comm] using Run.cons hs (ih h')

theorem Run.exists_last {c e : Configuration} {n : Nat} (h : Run g s (n + 1) c e) :
    ∃ d, Run g s n c d ∧ Step g s d e := by
  induction n generalizing c with
  | zero =>
    cases h with
    | cons hs h =>
      cases h
      exact ⟨c, .zero c, step_eq_ok_iff.mp hs⟩
  | succ n ih =>
    cases h with
    | cons hs h =>
      obtain ⟨d, hd, hlast⟩ := ih h
      exact ⟨d, .cons hs hd, hlast⟩

theorem Run.rest {c d e : Configuration} {n m : Nat} (h : Run g s n c d)
    (h' : Run g s (n + m) c e) : Run g s m d e := by
  induction h with
  | zero => rwa [Nat.zero_add] at h'
  | cons hs h ih =>
    rw [Nat.add_right_comm] at h'
    cases h' with
    | cons hs' h' =>
      cases hs.symm.trans hs'
      exact ih h'

theorem Run.preserves {P : Configuration → Prop}
    (hstep : ∀ c d, P c → Step g s c d → P d) {c d : Configuration} {n : Nat}
    (h : Run g s n c d) (hc : P c) : P d := by
  induction h with
  | zero => exact hc
  | cons hs h ih => exact ih (hstep _ _ hc (step_eq_ok_iff.mp hs))

end Configuration

end TopDown
