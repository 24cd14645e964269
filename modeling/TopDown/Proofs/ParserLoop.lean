import TopDown.Proofs.Transitions

namespace TopDown

open TopDown.Configuration

variable {g : Grammar} {s : TokenStream} {limits : Limits} {clock : Nat → Nat}

namespace Trace

variable {t t' : Trace} {r : Except ParseError Trace}

@[simp] theorem last_push (t : Trace) (c : Configuration) : (t.push c).last = c := by
  simp [last, push]

theorem limitError?_none : t.limitError? .none clock = none := rfl

theorem limitError?_ne_step (e : StepError) : t.limitError? limits clock ≠ some (.step e) := by
  unfold limitError?
  cases limits.maxSteps <;> cases limits.time <;> simp

/-- The loop goes on from a trace for a number of rounds and then returns. -/
inductive Returns (g : Grammar) (s : TokenStream) (limits : Limits) (clock : Nat → Nat) :
    Nat → Trace → Except ParseError Trace → Prop
  | final {t : Trace} (hf : t.last.isFinal = true) : Returns g s limits clock 0 t (.ok t)
  | limit {t : Trace} {e : ParseError} (hf : t.last.isFinal = false)
      (hl : t.limitError? limits clock = some e) : Returns g s limits clock 0 t (.error e)
  | stuck {t : Trace} {e : StepError} (hf : t.last.isFinal = false)
      (hl : t.limitError? limits clock = none) (hs : t.last.step g s = .error e) :
      Returns g s limits clock 1 t (.error (.step e))
  | next {t : Trace} {c : Configuration} {n : Nat} {r : Except ParseError Trace}
      (hf : t.last.isFinal = false) (hl : t.limitError? limits clock = none)
      (hs : t.last.step g s = .ok c) (rest : Returns g s limits clock n (t.push c) r) :
      Returns g s limits clock (n + 1) t r

theorem Returns.extend?_eq {n : Nat} (h : Returns g s limits clock n t r) {fuel : Nat}
    (hn : n ≤ fuel) : extend? g s limits clock fuel t = some r := by
  induction h generalizing fuel with
  | final hf =>
    unfold extend?
    rw [hf, if_pos rfl]
  | limit hf hl =>
    unfold extend?
    simp only [hf, hl, Bool.false_eq_true, if_false]
  | stuck hf hl hs =>
    obtain ⟨fuel, rfl⟩ := Nat.exists_eq_add_of_le' hn
    unfold extend?
    simp only [hf, hl, hs, Bool.false_eq_true, if_false]
  | next hf hl hs rest ih =>
    cases fuel with
    | zero => cases hn
    | succ fuel =>
      unfold extend?
      simp only [hf, hl, hs, Bool.false_eq_true, if_false]
      exact ih (Nat.le_of_succ_le_succ hn)

theorem returns_at_once_or (t : Trace) :
    (∃ r, Returns g s limits clock 0 t r) ∨
      t.last.isFinal = false ∧ t.limitError? limits clock = none := by
  cases hf : t.last.isFinal with
  | true => exact .inl ⟨.ok t, .final hf⟩
  | false =>
    cases hl : t.limitError? limits clock with
    | some e => exact .inl ⟨.error e, .limit hf hl⟩
    | none => exact .inr ⟨rfl, rfl⟩

theorem returns_of_extend?_eq {fuel : Nat} (h : extend? g s limits clock fuel t = some r) :
    ∃ n, Returns g s limits clock n t r := by
  induction fuel generalizing t with
  | zero =>
    obtain ⟨r', hr⟩ | ⟨hf, hl⟩ := returns_at_once_or (g := g) (s := s) t
    · rw [hr.extend?_eq (Nat.zero_le _), Option.some.injEq] at h
      exact ⟨0, h ▸ hr⟩
    · unfold extend? at h
      simp [hf, hl] at h
  | succ fuel ih =>
    obtain ⟨r', hr⟩ | ⟨hf, hl⟩ := returns_at_once_or (g := g) (s := s) t
    · rw [hr.extend?_eq (Nat.zero_le _), Option.some.injEq] at h
      exact ⟨0, h ▸ hr⟩
    · unfold extend? at h
      simp only [hf, hl, Bool.false_eq_true, if_false] at h
      cases hs : t.last.step g s with
      | error e =>
        simp only [hs, Option.some.injEq] at h
        exact ⟨1, h ▸ .stuck hf hl hs⟩
      | ok c =>
        simp only [hs] at h
        obtain ⟨n, hn⟩ := ih h
        exact ⟨n + 1, .next hf hl hs hn⟩

theorem Returns.run {n : Nat} (h : Returns g s limits clock n t (.ok t')) :
    t'.last.isFinal = true ∧ Run g s n t.last t'.last := by
  generalize hr : Except.ok t' = r at h
  induction h with
  | final hf =>
    cases hr
    exact ⟨hf, .zero _⟩
  | limit | stuck => cases hr
  | next hf hl hs rest ih =>
    obtain ⟨hf', hrun⟩ := ih hr
    rw [last_push] at hrun
    exact ⟨hf', .cons hs hrun⟩

theorem exists_returns_of_run {n : Nat} {c d : Configuration} (h : Run g s n c d)
    (hd : d.isFinal = true) (ht : t.last = c) :
    ∃ t', t'.last = d ∧ Returns g s .none clock n t (.ok t') := by
  induction h generalizing t with
  | zero c => exact ⟨t, ht, .final (by rwa [ht])⟩
  | cons hs h ih =>
    obtain ⟨t', ht', hr⟩ := ih hd (last_push t _)
    have hf : t.last.isFinal = false := by
      rw [ht]
      exact (step_eq_ok_iff.mp hs).isFinal_eq_false
    exact ⟨t', ht', .next hf limitError?_none (ht ▸ hs) hr⟩

theorem Returns.ne_step_error {P : Configuration → Prop}
    (hstep : ∀ c d, P c → Step g s c d → P d)
    (hok : ∀ c, P c → c.isFinal = false → ∃ d, c.step g s = .ok d)
    {n : Nat} (h : Returns g s limits clock n t r) (ht : P t.last) (e : StepError) :
    r ≠ .error (.step e) := by
  induction h with
  | final => nofun
  | limit hf hl =>
    rintro ⟨⟩
    exact limitError?_ne_step e hl
  | stuck hf hl hs =>
    obtain ⟨d, hd⟩ := hok _ ht hf
    rw [hd] at hs
    cases hs
  | next hf hl hs rest ih =>
    rw [last_push] at ih
    exact ih (hstep _ _ ht (step_eq_ok_iff.mp hs))

theorem isSome_extend? {k fuel : Nat} (hl : limits.maxSteps = some k)
    (hk : k ≤ t.later.size + fuel) : (t.extend? g s limits clock fuel).isSome := by
  induction fuel generalizing t with
  | zero =>
    obtain ⟨r, hr⟩ | ⟨-, hnone⟩ := returns_at_once_or (g := g) (s := s) t
    · rw [hr.extend?_eq (Nat.le_refl 0)]
      rfl
    · have hover : k ≤ t.steps := hk
      simp [limitError?, hl, hover] at hnone
  | succ fuel ih =>
    obtain ⟨r, hr⟩ | ⟨hf, hnone⟩ := returns_at_once_or (g := g) (s := s) t
    · rw [hr.extend?_eq (Nat.zero_le _)]
      rfl
    · unfold extend?
      simp only [hf, hnone, Bool.false_eq_true, if_false]
      cases t.last.step g s with
      | error e => rfl
      | ok c =>
        refine ih ?_
        rw [push, Array.size_push]
        omega

end Trace

theorem Grammar.isSome_parseStream? (g : Grammar) (s : TokenStream) (start : Nat)
    (hl : limits.maxSteps.isSome) (clock : Nat → Nat) (patience : Nat) :
    (g.parseStream? s start limits clock patience).isSome := by
  obtain ⟨k, hk⟩ := Option.isSome_iff_exists.mp hl
  refine Trace.isSome_extend? hk ?_
  rw [hk, Option.getD_some]
  exact Nat.le_add_left k _

theorem Grammar.isSome_parse? (g : Grammar) (tokens : List String) (start : Option String)
    (hl : limits.maxSteps.isSome) (clock : Nat → Nat) (patience : Nat) :
    (g.parse? tokens start limits clock patience).isSome := by
  unfold parse?
  cases start with
  | none => exact g.isSome_parseStream? _ _ hl clock patience
  | some name =>
    dsimp only
    split
    · exact g.isSome_parseStream? _ _ hl clock patience
    · rfl

section

variable {g' : Grammar} {s' : TokenStream}

theorem Configuration.Run.congr (h : ∀ c : Configuration, c.step g' s' = c.step g s) {n : Nat}
    {c d : Configuration} (hr : Run g s n c d) : Run g' s' n c d := by
  induction hr with
  | zero c => exact .zero c
  | cons hs _ ih => exact .cons ((h _).trans hs) ih

theorem Trace.extend?_congr (h : ∀ c : Configuration, c.step g' s' = c.step g s) (limits : Limits)
    (clock : Nat → Nat) (fuel : Nat) (t : Trace) :
    t.extend? g' s' limits clock fuel = t.extend? g s limits clock fuel := by
  induction fuel generalizing t with
  | zero =>
    unfold extend?
    rfl
  | succ fuel ih =>
    unfold extend?
    simp only [h, ih]

theorem Grammar.parseStream?_congr (h : ∀ c : Configuration, c.step g' s' = c.step g s)
    (start : Nat) (limits : Limits) (clock : Nat → Nat) (patience : Nat) :
    g'.parseStream? s' start limits clock patience = g.parseStream? s start limits clock patience :=
  Trace.extend?_congr h limits clock _ _

end

end TopDown
