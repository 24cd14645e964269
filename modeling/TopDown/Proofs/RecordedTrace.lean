import Mathlib.Data.List.Chain
import TopDown.Proofs.ParserLoop

namespace TopDown

open TopDown.Configuration

variable {g : Grammar} {s : TokenStream} {limits : Limits} {clock : Nat → Nat}

/-- The trace of a parse that ends, or of one that a limit cuts short. -/
def recorded? : Except ParseError Trace → Option Trace
  | .ok t => some t
  | .error e => e.partialTrace?

namespace Trace

variable {t t' : Trace} {r : Except ParseError Trace} {n : Nat}

@[simp] theorem toList_push (t : Trace) (c : Configuration) :
    (t.push c).toList = t.toList ++ [c] := by
  simp [toList, push]

theorem getLast?_toList (t : Trace) : t.toList.getLast? = some t.last := by
  rw [toList, List.getLast?_cons, last, ← Array.getLast?_toList]

theorem partialTrace?_of_limitError? {e : ParseError} (h : t.limitError? limits clock = some e) :
    e.partialTrace? = some t := by
  unfold limitError? at h
  simp only [Option.or_eq_some_iff, Option.bind_eq_some_iff] at h
  obtain ⟨limit, -, h⟩ | ⟨-, limit, -, h⟩ := h
  · split at h
    · cases h
      rfl
    · cases h
  · split at h
    · cases h
      rfl
    · cases h

theorem isChain_push (ht : t.toList.IsChain (Step g s)) {c : Configuration}
    (hc : Step g s t.last c) : (t.push c).toList.IsChain (Step g s) := by
  rw [toList_push, List.isChain_append]
  refine ⟨ht, .singleton c, fun x hx y hy ↦ ?_⟩
  rw [getLast?_toList, Option.mem_some_iff] at hx
  rw [List.head?_cons, Option.mem_some_iff] at hy
  exact hx ▸ hy ▸ hc

/-- What holds of the first trace, and still holds when a step is added, holds of the last one. -/
theorem Returns.preserves {P : Trace → Prop}
    (hpush : ∀ t c, P t → Step g s t.last c → P (t.push c))
    (h : Returns g s limits clock n t r) (hr : recorded? r = some t') (ht : P t) : P t' := by
  induction h with
  | final hf =>
    cases hr
    exact ht
  | limit hf hl =>
    cases (partialTrace?_of_limitError? hl).symm.trans hr
    exact ht
  | stuck => cases hr
  | next hf hl hs rest ih => exact ih hr (hpush _ _ ht (step_eq_ok_iff.mp hs))

theorem Returns.isChain (h : Returns g s limits clock n t r) (hr : recorded? r = some t')
    (ht : t.toList.IsChain (Step g s)) : t'.first = t.first ∧ t'.toList.IsChain (Step g s) :=
  h.preserves (P := fun t' ↦ t'.first = t.first ∧ t'.toList.IsChain (Step g s))
    (fun _ _ ht hc ↦ ⟨ht.1, isChain_push ht.2 hc⟩) hr ⟨rfl, ht⟩

@[simp] theorem steps_push (t : Trace) (c : Configuration) : (t.push c).steps = t.steps + 1 :=
  Array.size_push c

theorem limitError?_maxSteps (t : Trace) (k : Nat) :
    t.limitError? ⟨some k, none⟩ clock =
      if k ≤ t.steps then some (.stepLimitExceeded k t) else none := by
  unfold limitError?
  by_cases hk : k ≤ t.steps <;> simp [hk]

theorem exists_returns_of_progress {P : Configuration → Prop}
    (hstep : ∀ c d, P c → Step g s c d → P d)
    (hok : ∀ c, P c → c.isFinal = false → ∃ d, c.step g s = .ok d) (ht : P t.last) {k : Nat}
    (hk : t.steps + n = k) :
    ∃ m ≤ n, ∃ r, Returns g s ⟨some k, none⟩ clock m t r ∧
      ((∃ t', r = .ok t') ∨ ∃ t', r = .error (.stepLimitExceeded k t') ∧ t'.steps = k) := by
  induction n generalizing t with
  | zero =>
    cases hf : t.last.isFinal with
    | true => exact ⟨0, Nat.le_refl 0, _, .final hf, .inl ⟨t, rfl⟩⟩
    | false =>
      have hl : t.limitError? ⟨some k, none⟩ clock = some (.stepLimitExceeded k t) := by
        rw [limitError?_maxSteps, if_pos (by omega)]
      exact ⟨0, Nat.le_refl 0, _, .limit hf hl, .inr ⟨t, rfl, by omega⟩⟩
  | succ n ih =>
    cases hf : t.last.isFinal with
    | true => exact ⟨0, Nat.zero_le _, _, .final hf, .inl ⟨t, rfl⟩⟩
    | false =>
      have hl : t.limitError? ⟨some k, none⟩ clock = none := by
        rw [limitError?_maxSteps, if_neg (by omega)]
      obtain ⟨d, hd⟩ := hok _ ht hf
      have hp : P (t.push d).last := by
        rw [last_push]
        exact hstep _ _ ht (step_eq_ok_iff.mp hd)
      obtain ⟨m, hm, r, hr, he⟩ := ih hp (by rw [steps_push]; omega)
      exact ⟨m + 1, by omega, r, .next hf hl hd hr, he⟩

end Trace

inductive Grammar.Records (g : Grammar) : TokenStream → Trace → Prop
  | parseStream {s : TokenStream} {start : Nat} {limits : Limits} {clock : Nat → Nat}
      {patience : Nat} {r : Except ParseError Trace} {t : Trace}
      (h : g.parseStream? s start limits clock patience = some r) (ht : recorded? r = some t) :
      Records g s t
  | parse {tokens : List String} {name : Option String} {limits : Limits} {clock : Nat → Nat}
      {patience : Nat} {r : Except ParseError Trace} {t : Trace}
      (h : g.parse? tokens name limits clock patience = some r) (ht : recorded? r = some t) :
      Records g (.ofTokens tokens g.endMarker) t

theorem Grammar.parseStream?_isChain {start patience : Nat} {r : Except ParseError Trace}
    {t : Trace} (h : g.parseStream? s start limits clock patience = some r)
    (ht : recorded? r = some t) : t.first = .initial start ∧ t.toList.IsChain (Step g s) := by
  obtain ⟨n, hn⟩ := Trace.returns_of_extend?_eq h
  exact hn.isChain ht (.singleton _)

theorem Grammar.Records.isChain {t : Trace} (h : g.Records s t) :
    (∃ start, t.first = .initial start) ∧ t.toList.IsChain (Step g s) := by
  cases h with
  | parseStream h ht =>
    obtain ⟨hfirst, hchain⟩ := parseStream?_isChain h ht
    exact ⟨⟨_, hfirst⟩, hchain⟩
  | @parse tokens name limits clock patience r t h ht =>
    unfold parse? at h
    cases name with
    | none =>
      obtain ⟨hfirst, hchain⟩ := parseStream?_isChain h ht
      exact ⟨⟨_, hfirst⟩, hchain⟩
    | some name =>
      cases hid : g.nonTerminal? name with
      | none =>
        simp only [hid, Option.some.injEq] at h
        subst h
        cases ht
      | some id =>
        simp only [hid] at h
        obtain ⟨hfirst, hchain⟩ := parseStream?_isChain h ht
        exact ⟨⟨_, hfirst⟩, hchain⟩

theorem Configuration.exists_run_of_isChain {c : Configuration} {cs : List Configuration}
    (h : (c :: cs).IsChain (Step g s)) {d : Configuration} (hd : (c :: cs).getLast? = some d) :
    Run g s cs.length c d := by
  induction cs generalizing c with
  | nil =>
    cases hd
    exact .zero c
  | cons e cs ih =>
    rw [List.isChain_cons_cons] at h
    exact .cons h.1.step_eq (ih h.2 hd)

end TopDown
