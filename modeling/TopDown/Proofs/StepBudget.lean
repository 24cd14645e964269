import TopDown.Proofs.ReachableState
import TopDown.Proofs.RecordedTrace

namespace TopDown

open TopDown.Configuration

variable {g : Grammar} {s : TokenStream} {limits : Limits} {clock : Nat → Nat}
  {start patience k n n' : Nat}

namespace Configuration

variable {c d e : Configuration}

theorem getElem?_eq_some_iff_of_isChain {cs : List Configuration}
    (h : (c :: cs).IsChain (Step g s)) {i : Nat} :
    (c :: cs)[i]? = some d ↔ i ≤ cs.length ∧ Run g s i c d := by
  induction cs generalizing c i with
  | nil =>
    cases i with
    | zero => simp [run_zero_iff]
    | succ i => simp
  | cons e cs ih =>
    rw [List.isChain_cons_cons] at h
    cases i with
    | zero => simp [run_zero_iff]
    | succ i =>
      rw [List.getElem?_cons_succ, ih h.2, run_succ_iff h.1.step_eq, List.length_cons,
        Nat.succ_le_succ_iff]

theorem Run.le_of_isFinal (h : Run g s n c d) (hd : d.isFinal = true) (h' : Run g s n' c e) :
    n' ≤ n := by
  refine Nat.not_lt.mp fun hlt ↦ ?_
  obtain ⟨m, rfl⟩ := Nat.exists_eq_add_of_lt hlt
  rw [Nat.add_assoc] at h'
  cases h.rest h' with
  | cons hs _ => exact Bool.false_ne_true ((step_eq_ok_iff.mp hs).isFinal_eq_false.symm.trans hd)

end Configuration

namespace Trace

variable {t t' : Trace}

theorem get?_steps (t : Trace) : t.get? t.steps = some t.last := by
  rw [← getElem?_toList, ← getLast?_toList, List.getLast?_eq_getElem?]
  rfl

/-- The trace consists of the configurations that up to `n` steps lead to from a rule. -/
structure Follows (g : Grammar) (s : TokenStream) (start n : Nat) (t : Trace) : Prop where
  steps_eq : t.steps = n
  get?_iff : ∀ i c, t.get? i = some c ↔ i ≤ n ∧ Run g s i (.initial start) c

theorem Follows.run_last (h : t.Follows g s start n) : Run g s n (.initial start) t.last := by
  have hl := t.get?_steps
  rw [h.steps_eq] at hl
  exact ((h.get?_iff n t.last).mp hl).2

theorem Follows.isPrefix (h : t.Follows g s start n) (h' : t'.Follows g s start n')
    (hn : n ≤ n') : t.toList <+: t'.toList := by
  rw [List.prefix_iff_getElem?]
  intro i hi
  have hc : t.get? i = some t.toList[i] := by
    rw [← getElem?_toList, List.getElem?_eq_getElem hi]
  obtain ⟨hle, hr⟩ := (h.get?_iff i _).mp hc
  rw [getElem?_toList]
  exact (h'.get?_iff i _).mpr ⟨hle.trans hn, hr⟩

theorem follows_of_isChain (hfirst : t.first = .initial start)
    (h : t.toList.IsChain (Step g s)) : t.Follows g s start t.steps := by
  refine ⟨rfl, fun i c ↦ ?_⟩
  rw [← getElem?_toList, ← hfirst]
  exact getElem?_eq_some_iff_of_isChain h

theorem Returns.steps_eq (h : Returns g s limits clock n t (.ok t')) :
    t'.steps = t.steps + n := by
  generalize hr : Except.ok t' = r at h
  induction h with
  | final hf =>
    cases hr
    rfl
  | limit | stuck => cases hr
  | next hf hl hs rest ih =>
    rw [ih hr, steps_push, Nat.add_assoc, Nat.add_comm 1]

theorem Returns.within (h : Returns g s .none clock n t (.ok t')) (hk : t.steps + n ≤ k) :
    Returns g s ⟨some k, none⟩ clock n t (.ok t') := by
  generalize hr : Except.ok t' = r at h ⊢
  induction h with
  | final hf => exact .final hf
  | limit | stuck => cases hr
  | @next t c n r hf hl hs rest ih =>
    refine .next hf ?_ hs (ih ?_ hr)
    · rw [limitError?_maxSteps, if_neg (by omega)]
    · rw [steps_push]
      omega

end Trace

namespace Grammar

variable {t t' : Trace} {c : Configuration} {r r' : Except ParseError Trace}

theorem follows_of_parseStream? (h : g.parseStream? s start limits clock patience = some r)
    (ht : recorded? r = some t) : t.Follows g s start t.steps := by
  obtain ⟨hfirst, hchain⟩ := parseStream?_isChain h ht
  exact Trace.follows_of_isChain hfirst hchain

theorem parseStream?_of_run_le (h : Run g s n (.initial start) c) (hf : c.isFinal = true)
    (hn : n ≤ k) (clock : Nat → Nat) (patience : Nat) :
    ∃ t, g.parseStream? s start ⟨some k, none⟩ clock patience = some (.ok t) ∧
      t.Follows g s start n ∧ t.last = c ∧
      ∀ patience', n ≤ patience' →
        g.parseStream? s start .none clock patience' = some (.ok t) := by
  obtain ⟨t, hlast, hr⟩ : ∃ t, t.last = c ∧
      Trace.Returns g s .none clock n ⟨.initial start, #[]⟩ (.ok t) :=
    Trace.exists_returns_of_run h hf rfl
  have hsteps : t.steps = n := by
    rw [hr.steps_eq]
    exact Nat.zero_add n
  have hnone (patience' : Nat) (hp : n ≤ patience') :
      g.parseStream? s start .none clock patience' = some (.ok t) :=
    hr.extend?_eq hp
  refine ⟨t, (hr.within ?_).extend?_eq hn, ?_, hlast, hnone⟩
  · exact (Nat.zero_add n).trans_le hn
  · exact hsteps ▸ follows_of_parseStream? (hnone n le_rfl) rfl

theorem parseStream?_of_forall_le (hg : g.WellFormed) (hs : start < g.rules.size)
    (h : ∀ n ≤ k, ∀ c, Run g s n (.initial start) c → c.isFinal = false) (clock : Nat → Nat)
    (patience : Nat) :
    ∃ t, g.parseStream? s start ⟨some k, none⟩ clock patience =
        some (.error (.stepLimitExceeded k t)) ∧
      t.Follows g s start k ∧ t.last.isFinal = false := by
  obtain ⟨m, hm, r, hr, hend⟩ : ∃ m ≤ k, ∃ r,
      Trace.Returns g s ⟨some k, none⟩ clock m ⟨.initial start, #[]⟩ r ∧
        ((∃ t, r = .ok t) ∨ ∃ t, r = .error (.stepLimitExceeded k t) ∧ t.steps = k) :=
    Trace.exists_returns_of_progress (fun _ _ hc hs ↦ Step.invariant hs hc)
      (fun _ hc ↦ hc.progress hg hs) invariant_initial (Nat.zero_add k)
  have hp : g.parseStream? s start ⟨some k, none⟩ clock patience = some r := hr.extend?_eq hm
  obtain ⟨t, rfl⟩ | ⟨t, rfl, hsteps⟩ := hend
  · obtain ⟨hf, hrun⟩ := hr.run
    exact absurd (h m hm _ hrun) (by rw [hf]; exact Bool.noConfusion)
  · have hfollows : t.Follows g s start k := hsteps ▸ follows_of_parseStream? hp rfl
    exact ⟨t, hp, hfollows, h k le_rfl _ hfollows.run_last⟩

theorem exists_follows_of_parseStream? (hg : g.WellFormed) (hs : start < g.rules.size)
    (s : TokenStream) (k : Nat) (clock : Nat → Nat) (patience : Nat) :
    ∃ r t n, g.parseStream? s start ⟨some k, none⟩ clock patience = some r ∧
      recorded? r = some t ∧ t.Follows g s start n ∧ n ≤ k ∧
      (n = k ∨ t.last.isFinal = true) := by
  by_cases h : ∃ n ≤ k, ∃ c, Run g s n (.initial start) c ∧ c.isFinal = true
  · obtain ⟨n, hn, c, hr, hf⟩ := h
    obtain ⟨t, ht, hfollows, hlast, -⟩ := parseStream?_of_run_le hr hf hn clock patience
    exact ⟨.ok t, t, n, ht, rfl, hfollows, hn, .inr (hlast ▸ hf)⟩
  · simp only [not_exists, not_and, Bool.not_eq_true] at h
    obtain ⟨t, ht, hfollows, -⟩ := parseStream?_of_forall_le hg hs h clock patience
    exact ⟨_, t, k, ht, rfl, hfollows, le_rfl, .inl rfl⟩

theorem isPrefix_of_parseStream? (hg : g.WellFormed) (hs : start < g.rules.size) {k' : Nat}
    (hk : k ≤ k') (h : g.parseStream? s start ⟨some k, none⟩ clock patience = some r)
    (h' : g.parseStream? s start ⟨some k', none⟩ clock patience = some r')
    (ht : recorded? r = some t) (ht' : recorded? r' = some t') : t.toList <+: t'.toList := by
  obtain ⟨_, _, n, hp, hr, hfollows, hn, -⟩ :=
    exists_follows_of_parseStream? hg hs s k clock patience
  obtain ⟨_, _, n', hp', hr', hfollows', -, hend⟩ :=
    exists_follows_of_parseStream? hg hs s k' clock patience
  cases h.symm.trans hp
  cases h'.symm.trans hp'
  cases ht.symm.trans hr
  cases ht'.symm.trans hr'
  refine hfollows.isPrefix hfollows' ?_
  obtain rfl | hf := hend
  · exact hn.trans hk
  · exact hfollows'.run_last.le_of_isFinal hf hfollows.run_last

theorem parseStream?_of_le (hg : g.WellFormed) (hs : start < g.rules.size) {k' : Nat}
    (hk : k ≤ k') (h : g.parseStream? s start ⟨some k, none⟩ clock patience = some (.ok t)) :
    g.parseStream? s start ⟨some k', none⟩ clock patience = some (.ok t) := by
  obtain ⟨m, hm⟩ := Trace.returns_of_extend?_eq h
  obtain ⟨_, _, n, hp, hr, hfollows, hn, -⟩ :=
    exists_follows_of_parseStream? hg hs s k clock patience
  cases h.symm.trans hp
  cases hr
  obtain ⟨t₁, h₁, -, -, hnone₁⟩ :=
    parseStream?_of_run_le hfollows.run_last hm.run.1 hn clock patience
  obtain ⟨t₂, h₂, -, -, hnone₂⟩ :=
    parseStream?_of_run_le hfollows.run_last hm.run.1 (hn.trans hk) clock patience
  cases h.symm.trans h₁
  cases (hnone₁ n le_rfl).symm.trans (hnone₂ n le_rfl)
  exact h₂

end Grammar

/--
A parse with a limit on the steps returns what it returns without one if it ends within the limit,
and is cut short at the limit if not. So a greater limit changes no verdict and extends the trace.
-/
theorem budget_cuts_short {b : GrammarBuilder} (hb : b.build = .ok g) (hs : start < g.rules.size)
    (s : TokenStream) (clock : Nat → Nat) (patience : Nat) :
    (∀ k n c, Run g s n (.initial start) c → c.isFinal = true → n ≤ k →
      ∃ t, g.parseStream? s start ⟨some k, none⟩ clock patience = some (.ok t) ∧
        t.Follows g s start n ∧ t.last = c ∧
        ∀ patience', n ≤ patience' →
          g.parseStream? s start .none clock patience' = some (.ok t)) ∧
    (∀ k, (∀ n ≤ k, ∀ c, Run g s n (.initial start) c → c.isFinal = false) →
      ∃ t, g.parseStream? s start ⟨some k, none⟩ clock patience =
          some (.error (.stepLimitExceeded k t)) ∧
        t.Follows g s start k ∧ t.last.isFinal = false) ∧
    ∀ k k', k ≤ k' →
      (∀ t, g.parseStream? s start ⟨some k, none⟩ clock patience = some (.ok t) →
        g.parseStream? s start ⟨some k', none⟩ clock patience = some (.ok t)) ∧
      ∀ r r' t t', g.parseStream? s start ⟨some k, none⟩ clock patience = some r →
        g.parseStream? s start ⟨some k', none⟩ clock patience = some r' →
        recorded? r = some t → recorded? r' = some t' → t.toList <+: t'.toList := by
  have hg := GrammarBuilder.build_wellFormed hb
  refine ⟨fun k n c hr hf hn ↦ ?_, fun k h ↦ ?_, fun k k' hk ↦ ⟨fun t ↦ ?_, fun r r' t t' ↦ ?_⟩⟩
  · exact Grammar.parseStream?_of_run_le hr hf hn clock patience
  · exact Grammar.parseStream?_of_forall_le hg hs h clock patience
  · exact Grammar.parseStream?_of_le hg hs hk
  · exact Grammar.isPrefix_of_parseStream? hg hs hk

/-- The parse of `a a b` takes ten steps: nine are too few for it, and ten are enough. -/
theorem budget_cuts_short_oneOrTwo :
    GrammarBuilder.oneOrTwo.build = .ok .oneOrTwo ∧
    (∃ t, Grammar.oneOrTwo.parseStream? (.ofTokens ["a", "a", "b"] "#") 0 ⟨some 9, none⟩
        (fun _ ↦ 0) 0 = some (.error (.stepLimitExceeded 9 t)) ∧
      t.Follows .oneOrTwo (.ofTokens ["a", "a", "b"] "#") 0 9) ∧
    ∃ t, Grammar.oneOrTwo.parseStream? (.ofTokens ["a", "a", "b"] "#") 0 ⟨some 10, none⟩
        (fun _ ↦ 0) 0 = some (.ok t) ∧
      t.Follows .oneOrTwo (.ofTokens ["a", "a", "b"] "#") 0 10 ∧ t.accepted = true := by
  let c : Configuration := ⟨.success, 3,
    .ofList [.nonTerminal 0, .nonTerminal 1, .terminal 1, .terminal 1, .terminal 0],
    .ofList [.endMarker], .ofList [0, 1], .acceptance, false⟩
  have hr : Run .oneOrTwo (.ofTokens ["a", "a", "b"] "#") 10 (.initial 0) c := by decide +kernel
  have hstart : 0 < Grammar.oneOrTwo.rules.size := by decide
  obtain ⟨hwhole, hcut, -⟩ :=
    budget_cuts_short build_oneOrTwo hstart (.ofTokens ["a", "a", "b"] "#") (fun _ ↦ 0) 0
  obtain ⟨t, ht, hfollows, -⟩ := hcut 9 fun n hn d hd ↦ by
    by_contra hf
    have hle := hd.le_of_isFinal (Bool.not_eq_false _ ▸ hf) hr
    omega
  obtain ⟨t', ht', hfollows', hlast, -⟩ := hwhole 10 10 c hr rfl le_rfl
  refine ⟨build_oneOrTwo, ⟨t, ht, hfollows⟩, t', ht', hfollows', ?_⟩
  rw [Trace.accepted, hlast]
  rfl

end TopDown
