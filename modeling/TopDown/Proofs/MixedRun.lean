import TopDown.Proofs.ReachableState

namespace TopDown

open TopDown.Symbol

def EndsOnce (xs : List Symbol) : Prop :=
  ∃ ys, xs = ys ++ [.endMarker] ∧ .endMarker ∉ ys

section

variable {x : Symbol} {xs ys : List Symbol}

theorem EndsOnce.ne_nil (h : EndsOnce xs) : xs ≠ [] := by
  obtain ⟨ys, rfl, -⟩ := h
  exact List.append_ne_nil_of_right_ne_nil ys (List.cons_ne_nil _ _)

theorem endsOnce_append (hx : .endMarker ∉ xs) : EndsOnce (xs ++ ys) ↔ EndsOnce ys := by
  constructor
  · rintro ⟨zs, he, hz⟩
    obtain ⟨as, rfl, rfl⟩ | ⟨as, rfl, ha⟩ := List.append_eq_append_iff.mp he
    · exact ⟨as, rfl, fun h ↦ hz (List.mem_append_right xs h)⟩
    · -- Otherwise the end marker would be among `xs`, or `xs` all but the end marker.
      cases as with
      | nil => exact ⟨[], ha.symm, List.not_mem_nil⟩
      | cons a as =>
        obtain ⟨rfl, -⟩ := List.cons.inj ha
        exact absurd (List.mem_append_right zs List.mem_cons_self) hx
  · rintro ⟨zs, rfl, hz⟩
    refine ⟨xs ++ zs, (List.append_assoc ..).symm, ?_⟩
    rw [List.mem_append, not_or]
    exact ⟨hx, hz⟩

@[simp] theorem endsOnce_cons_nonTerminal {id : Nat} :
    EndsOnce (.nonTerminal id :: xs) ↔ EndsOnce xs :=
  show EndsOnce ([_] ++ xs) ↔ _ from endsOnce_append (by simp)

@[simp] theorem endsOnce_cons_terminal {id : Nat} :
    EndsOnce (.terminal id :: xs) ↔ EndsOnce xs :=
  show EndsOnce ([_] ++ xs) ↔ _ from endsOnce_append (by simp)

end

theorem Grammar.WellFormed.endMarker_notMem {g : Grammar} (hg : g.WellFormed) {id i : Nat}
    {alternative : List Symbol} (h : (g.alternativesOf id)[i]? = some alternative) :
    .endMarker ∉ alternative :=
  fun hm ↦ hg.has_of_mem id alternative (List.mem_of_getElem? h) _ hm

namespace Configuration

def KnownTo (g : Grammar) (c : Configuration) : Prop :=
  ∀ x ∈ c.matched.values ++ c.pending.values, x ≠ .endMarker → g.Has x

instance (g : Grammar) (c : Configuration) : Decidable (c.KnownTo g) :=
  inferInstanceAs (Decidable (∀ x ∈ c.matched.values ++ c.pending.values, _ → _))

/--
Steps from an initial configuration, each with a grammar and a stream of its own. The list holds the
transitions, latest first.
-/
inductive MixedRun (start : Nat) : List Transition → Configuration → Prop
  | initial : MixedRun start [] (.initial start)
  | step {made : List Transition} {c d : Configuration} {b : GrammarBuilder} {g : Grammar}
      {s : TokenStream} (before : MixedRun start made c) (built : b.build = .ok g)
      (known : c.KnownTo g) (next : c.step g s = .ok d) : MixedRun start (d.transition :: made) d

/-- Whether a non-terminal has run out of alternatives since the latest mismatch. -/
def EscalatedSince (made : List Transition) : Prop :=
  .escalate ∈ made.takeWhile (· ≠ .mismatch)

@[simp] theorem escalatedSince_cons {t : Transition} {made : List Transition} :
    EscalatedSince (t :: made) ↔ t ≠ .mismatch ∧ (t = .escalate ∨ EscalatedSince made) := by
  unfold EscalatedSince
  by_cases ht : t = .mismatch
  · simp [ht]
  · simp [ht, eq_comm]

/-- What holds of a configuration whatever the grammars were, where `made` led to it. -/
structure Shape (start : Nat) (made : List Transition) (c : Configuration) : Prop where
  pending : EndsOnce c.pending.values
  matched : .endMarker ∉ c.matched.bottomUp
  cursor_eq : c.cursor = (terminalsOf c.matched.bottomUp).length
  size_history : c.history.size = (nonTerminalsOf c.matched.bottomUp).length
  bottom : made = [] ∧ c = .initial start ∨
    c.matched.bottomUp.head? = some (.nonTerminal start)
  pending_of_success : c.mode = .success → c.pending.values = [.endMarker]
  mode_of_reject : c.transition = .reject → c.mode = .fail
  exhausted_iff : c.exhausted = true ↔
    c.transition = .reject ∨ c.mode = .backtrack ∧ EscalatedSince made

variable {g : Grammar} {s : TokenStream} {start : Nat} {made : List Transition}
  {c d : Configuration}

theorem shape_initial : Shape start [] (.initial start) where
  pending := ⟨[.nonTerminal start], rfl, by simp⟩
  matched := List.not_mem_nil
  cursor_eq := rfl
  size_history := rfl
  bottom := .inl ⟨rfl, rfl⟩
  pending_of_success := nofun
  mode_of_reject := nofun
  exhausted_iff := by simp [initial]

theorem Step.endsOnce (hg : g.WellFormed) (h : Step g s c d) (hp : EndsOnce c.pending.values) :
    EndsOnce d.pending.values := by
  cases h with
  | expansion first =>
    rw [Stack.values_pushAll, endsOnce_append (hg.endMarker_notMem first)]
    simpa using hp
  | consume => simpa using hp
  | retreat => simpa using hp
  | nextAlternative current other =>
    rw [Stack.values_pushAll, endsOnce_append (hg.endMarker_notMem current)] at hp
    rwa [Stack.values_pushAll, endsOnce_append (hg.endMarker_notMem other)]
  | escalate current =>
    rw [Stack.values_pushAll, endsOnce_append (hg.endMarker_notMem current)] at hp
    simpa using hp
  | acceptance | mismatch | earlyEnd | reject => exact hp

theorem Step.endMarker_notMem (h : Step g s c d) (hm : .endMarker ∉ c.matched.bottomUp) :
    .endMarker ∉ d.matched.bottomUp := by
  cases h with
  | expansion | consume => simpa using hm
  | retreat | escalate =>
    rw [Stack.bottomUp_push, List.mem_append, not_or] at hm
    exact hm.1
  | acceptance | mismatch | earlyEnd | nextAlternative | reject => exact hm

theorem Step.cursor_eq (h : Step g s c d)
    (hc : c.cursor = (terminalsOf c.matched.bottomUp).length) :
    d.cursor = (terminalsOf d.matched.bottomUp).length := by
  cases h with
  | expansion | consume | retreat | escalate => simpa using hc
  | acceptance | mismatch | earlyEnd | nextAlternative | reject => exact hc

theorem Step.size_history (h : Step g s c d)
    (hc : c.history.size = (nonTerminalsOf c.matched.bottomUp).length) :
    d.history.size = (nonTerminalsOf d.matched.bottomUp).length := by
  cases h with
  | expansion | consume | retreat | escalate => simpa using hc
  | acceptance | mismatch | earlyEnd | nextAlternative | reject => exact hc

theorem Step.bottom_of_empty (h : Step g s c d) (hm : c.matched = .empty)
    (hp : c.pending.values.head? = some (.nonTerminal start)) (hc : c.mode = .matching) :
    d.matched.bottomUp.head? = some (.nonTerminal start) := by
  cases h with
  | expansion =>
    obtain rfl : _ = Stack.empty := hm
    simpa using hp
  | consume | acceptance | mismatch | earlyEnd => simp at hp
  | retreat | nextAlternative | reject | escalate => cases hc

theorem Step.bottom (h : Step g s c d)
    (hc : c.matched.bottomUp.head? = some (.nonTerminal start)) :
    d.matched.bottomUp.head? = some (.nonTerminal start) := by
  cases h with
  | expansion | consume => simp [List.head?_append, hc]
  | @retreat cursor matched =>
    obtain rfl | ⟨matched, x, rfl⟩ := matched.eq_empty_or_push
    · simp at hc
    · simpa [List.head?_append] using hc
  | @escalate cursor matched pending history transition exhausted id i alternative current last
      inner =>
    obtain rfl | ⟨matched, x, rfl⟩ := matched.eq_empty_or_push
    · exact absurd rfl inner
    · simpa [List.head?_append] using hc
  | acceptance | mismatch | earlyEnd | nextAlternative | reject => exact hc

theorem Step.exhausted_iff (h : Step g s c d) (hc : c.Shape start made) :
    d.exhausted = true ↔
      d.transition = .reject ∨ d.mode = .backtrack ∧ EscalatedSince (d.transition :: made) := by
  have hr := hc.mode_of_reject
  have he := hc.exhausted_iff
  cases h with
  | expansion | consume | nextAlternative => simp
  | acceptance | mismatch | earlyEnd => simp_all
  | retreat => simp_all
  | reject | escalate => simp

theorem Step.shape (hg : g.WellFormed) (h : Step g s c d) (hc : c.Shape start made) :
    d.Shape start (d.transition :: made) where
  pending := h.endsOnce hg hc.pending
  matched := h.endMarker_notMem hc.matched
  cursor_eq := h.cursor_eq hc.cursor_eq
  size_history := h.size_history hc.size_history
  bottom := by
    obtain ⟨-, rfl⟩ | hb := hc.bottom
    · exact .inr (h.bottom_of_empty rfl rfl rfl)
    · exact .inr (h.bottom hb)
  pending_of_success := by
    cases h with
    | acceptance => exact fun _ ↦ rfl
    | _ => nofun
  mode_of_reject := by
    cases h with
    | reject => exact fun _ ↦ rfl
    | _ => nofun
  exhausted_iff := h.exhausted_iff hc

theorem MixedRun.shape (h : MixedRun start made c) : c.Shape start made := by
  induction h with
  | initial => exact shape_initial
  | step before built known next ih =>
    exact (step_eq_ok_iff.mp next).shape (GrammarBuilder.build_wellFormed built) ih

theorem Shape.matched_ne_empty (hc : c.Shape start made) (hm : c.mode = .backtrack) :
    c.matched ≠ .empty := by
  intro he
  obtain ⟨-, rfl⟩ | hb := hc.bottom
  · cases hm
  · rw [he] at hb
    cases hb

inductive Misfit (g : Grammar) (c : Configuration) : StepError → Prop
  | final (hf : c.isFinal = true) : Misfit g c (.final c.mode)
  | noAlternative {id i : Nat} (hm : c.matched.top? = some (.nonTerminal id))
      (hh : c.history.top? = some i) (hi : (g.alternativesOf id)[i]? = none) :
      Misfit g c (.noAlternative (g.ruleName id) i)
  | differentPending {id i : Nat} {alternative : List Symbol}
      (hm : c.matched.top? = some (.nonTerminal id)) (hh : c.history.top? = some i)
      (hi : (g.alternativesOf id)[i]? = some alternative)
      (hp : ¬ alternative <+: c.pending.values) :
      Misfit g c (.differentPending (g.ruleName id) i)

theorem Shape.exists_step_of_matching (hg : g.WellFormed) (hk : c.KnownTo g)
    (hc : c.Shape start made) (hm : c.mode = .matching) : ∃ d, Step g s c d := by
  refine Configuration.exists_step_of_matching hg hm ?_ fun id htop ↦ ?_
  · intro he
    exact hc.pending.ne_nil (congrArg Stack.values he)
  · exact hk _ (List.mem_append_right _ (List.mem_of_mem_head? htop)) nofun

theorem misfit_of_changeChoice {id i : Nat} {below : Stack Symbol} {history : Stack Nat}
    {e : StepError} (hm : c.matched = below.push (.nonTerminal id))
    (hh : c.history = history.push i) (h : c.changeChoice g id below i history = .error e) :
    Misfit g c e := by
  have htop : c.matched.top? = some (.nonTerminal id) := hm ▸ Stack.top?_push below _
  have hlast : c.history.top? = some i := hh ▸ Stack.top?_push history i
  unfold changeChoice at h
  cases hi : (g.alternativesOf id)[i]? with
  | none =>
    simp only [hi, Except.error.injEq] at h
    exact h ▸ .noAlternative htop hlast hi
  | some alternative =>
    simp only [hi] at h
    cases hd : c.pending.dropAll? alternative with
    | none =>
      simp only [hd, Except.error.injEq] at h
      exact h ▸ .differentPending htop hlast hi (Stack.dropAll?_eq_none_iff.mp hd)
    | some rest =>
      simp only [hd] at h
      split at h
      · cases h
      · split at h <;> cases h

theorem Shape.misfit_of_backtrackStep {e : StepError} (hc : c.Shape start made)
    (hm : c.mode = .backtrack) (h : c.backtrackStep g = .error e) : Misfit g c e := by
  unfold backtrackStep at h
  obtain he | ⟨below, x, hx⟩ := c.matched.eq_empty_or_push
  · exact absurd he (hc.matched_ne_empty hm)
  have hcur := hc.cursor_eq
  have hsize := hc.size_history
  rw [hx, Stack.bottomUp_push] at hcur hsize
  simp only [hx, Stack.pop?_push] at h
  cases x with
  | terminal id =>
    obtain ⟨cursor, hcursor⟩ : ∃ cursor, c.cursor = cursor + 1 := ⟨_, by simpa using hcur⟩
    simp only [hcursor] at h
    cases h
  | endMarker => exact absurd (by simp [hx]) hc.matched
  | nonTerminal id =>
    obtain he | ⟨history, i, hh⟩ := c.history.eq_empty_or_push
    · rw [he] at hsize
      simp [Stack.empty] at hsize
    · simp only [hh, Stack.pop?_push] at h
      exact misfit_of_changeChoice hx hh h

theorem Shape.misfit {e : StepError} (hg : g.WellFormed) (hk : c.KnownTo g)
    (hc : c.Shape start made) (h : c.step g s = .error e) : Misfit g c e := by
  cases hm : c.mode with
  | matching =>
    obtain ⟨d, hd⟩ := hc.exists_step_of_matching (s := s) hg hk hm
    rw [hd.step_eq] at h
    cases h
  | backtrack =>
    simp only [step, hm] at h
    exact hc.misfit_of_backtrackStep hm h
  | success | fail =>
    simp only [step, hm, Except.error.injEq] at h
    rw [← h, ← hm]
    exact .final (by simp [isFinal, hm, Mode.isFinal])

end Configuration

open TopDown.Configuration

/--
Whatever grammars and tokens the steps were taken with, the stacks keep their shape, and a further
step fails only in a final configuration or at a choice that its grammar does not have.
-/
theorem shape_and_misfit_of_mixedRun {start : Nat} {made : List Transition} {c : Configuration}
    (h : MixedRun start made c) :
    c.Shape start made ∧ (c.mode = .backtrack → c.matched ≠ .empty) ∧
      ∀ (b : GrammarBuilder) (g : Grammar) (s : TokenStream) (e : StepError), b.build = .ok g →
        c.KnownTo g → c.step g s = .error e → Misfit g c e :=
  have hc := h.shape
  ⟨hc, hc.matched_ne_empty, fun _ _ _ _ hb hk he ↦
    hc.misfit (GrammarBuilder.build_wellFormed hb) hk he⟩

def GrammarBuilder.crossed : GrammarBuilder :=
  ((GrammarBuilder.withEntryPoint {} "S").withRule "S" [["b"], ["A"]]).withRule "A" [["a"]]

def Grammar.crossed : Grammar where
  rules := #[⟨"S", [[.terminal 0], [.nonTerminal 1]]⟩, ⟨"A", [[.terminal 1]]⟩]
  terminals := #[.literal "b", .literal "a"]
  entryPoint := 0
  endMarker := defaultEndMarker
  allowLeftRecursion := false
  warnings := []

theorem build_crossed : GrammarBuilder.crossed.build = .ok .crossed := by decide +kernel

/-- The choice for `A` is undone by another grammar, which then does not know the one for `S`. -/
theorem shape_and_misfit_of_mixedRun_crossed :
    ∃ c : Configuration, MixedRun 0 [.escalate, .mismatch, .expansion, .expansion] c ∧
      c.KnownTo .crossed ∧
      c.step .crossed (.ofTokens [] "#") = .error (.differentPending "S" 0) ∧
      c.exhausted = true ∧ Misfit .crossed c (.differentPending "S" 0) := by
  let s : TokenStream := .ofTokens [] "#"
  let expanded : Configuration := ⟨.matching, 0, .ofList [.nonTerminal 0],
    .ofList [.endMarker, .terminal 0, .nonTerminal 1], .ofList [0], .expansion, false⟩
  let twice : Configuration := ⟨.matching, 0, .ofList [.nonTerminal 0, .nonTerminal 1],
    .ofList [.endMarker, .terminal 0, .terminal 1], .ofList [0, 0], .expansion, false⟩
  let c : Configuration := ⟨.backtrack, 0, .ofList [.nonTerminal 0],
    .ofList [.endMarker, .terminal 0, .nonTerminal 1], .ofList [0], .escalate, true⟩
  have h₁ : MixedRun 0 [.expansion] expanded :=
    .step (s := s) (d := expanded) .initial build_oneOrTwo (by decide) (by decide)
  have h₂ : MixedRun 0 [.expansion, .expansion] twice :=
    .step (s := s) (d := twice) h₁ build_oneOrTwo (by decide) (by decide)
  have h₃ := h₂.step (s := s) (d := { twice with mode := .backtrack, transition := .mismatch })
    build_oneOrTwo (by decide) (by decide)
  have hc := h₃.step (s := s) (d := c) build_crossed (by decide) (by decide)
  have he : c.step .crossed s = .error (.differentPending "S" 0) := by decide
  obtain ⟨-, -, hm⟩ := shape_and_misfit_of_mixedRun hc
  exact ⟨c, hc, by decide, he, rfl, hm _ _ s _ build_crossed (by decide) he⟩

end TopDown
