import Mathlib.Data.Prod.Lex
import TopDown.Proofs.LeadingWeight
import TopDown.Proofs.ReachableState

namespace TopDown

namespace Configuration

variable {g : Grammar} {s : TokenStream} {start cursor cursor' : Nat} {c d : Configuration}
  {matched pending matched' pending' : Stack Symbol} {history history' : Stack Nat}
  {weight : Nat → Nat}

/-- Whether a run leads to the end, or back to the given cursor and stacks. -/
def Settles (g : Grammar) (s : TokenStream) (c : Configuration) (cursor : Nat)
    (matched pending : Stack Symbol) (history : Stack Nat) : Prop :=
  ∃ n d, Run g s n c d ∧ (d.isFinal = true ∨ ∃ transition exhausted,
    d = ⟨.backtrack, cursor, matched, pending, history, transition, exhausted⟩)

theorem settles_of_isFinal (h : c.isFinal = true) :
    Settles g s c cursor matched pending history :=
  ⟨0, c, .zero c, .inl h⟩

theorem settles_of_backtrack (transition : Transition) (exhausted : Bool) :
    Settles g s ⟨.backtrack, cursor, matched, pending, history, transition, exhausted⟩ cursor
      matched pending history :=
  ⟨0, _, .zero _, .inr ⟨transition, exhausted, rfl⟩⟩

theorem Step.settles (h : Step g s c d) (hd : Settles g s d cursor matched pending history) :
    Settles g s c cursor matched pending history := by
  obtain ⟨n, e, hr, he⟩ := hd
  exact ⟨n + 1, e, .cons h.step_eq hr, he⟩

theorem Invariant.settles_trans (hc : c.Invariant g s start)
    (h : Settles g s c cursor matched pending history)
    (hb : ∀ transition exhausted,
      Invariant g s start ⟨.backtrack, cursor, matched, pending, history, transition, exhausted⟩ →
      Settles g s ⟨.backtrack, cursor, matched, pending, history, transition, exhausted⟩ cursor'
        matched' pending' history') :
    Settles g s c cursor' matched' pending' history' := by
  obtain ⟨n, d, hr, hf | ⟨transition, exhausted, rfl⟩⟩ := h
  · exact ⟨n, d, hr, .inl hf⟩
  · have hd := hr.preserves (fun _ _ hc hs ↦ hs.invariant hc) hc
    obtain ⟨m, e, hr', he⟩ := hb transition exhausted hd
    exact ⟨n + m, e, hr.trans hr', he⟩

def MatchingSettles (g : Grammar) (s : TokenStream) (start cursor : Nat)
    (matched pending : Stack Symbol) (history : Stack Nat) : Prop :=
  ∀ transition exhausted,
    Invariant g s start ⟨.matching, cursor, matched, pending, history, transition, exhausted⟩ →
    Settles g s ⟨.matching, cursor, matched, pending, history, transition, exhausted⟩ cursor matched
      pending history

theorem Invariant.settles_alternatives {id i : Nat} {alternative : List Symbol}
    {transition : Transition} {exhausted : Bool}
    (hall : ∀ (i : Nat) (alternative : List Symbol), (g.alternativesOf id)[i]? = some alternative →
      MatchingSettles g s start cursor (matched.push (.nonTerminal id))
        (pending.pushAll alternative) (history.push i))
    (ha : (g.alternativesOf id)[i]? = some alternative)
    (hc : Invariant g s start ⟨.matching, cursor, matched.push (.nonTerminal id),
      pending.pushAll alternative, history.push i, transition, exhausted⟩) :
    Settles g s ⟨.matching, cursor, matched.push (.nonTerminal id), pending.pushAll alternative,
      history.push i, transition, exhausted⟩ cursor matched (pending.push (.nonTerminal id))
      history := by
  -- On the number of alternatives from this one on.
  induction hn : (g.alternativesOf id).length - i generalizing i alternative transition
    exhausted with
  | zero =>
    have hlt := (List.getElem?_eq_some_iff.mp ha).1
    omega
  | succ n ih =>
    refine hc.settles_trans (hall i alternative ha _ _ hc) fun transition exhausted hd ↦ ?_
    cases hnext : (g.alternativesOf id)[i + 1]? with
    | some next =>
      have hd' := Step.invariant (.nextAlternative ha hnext) hd
      exact Step.settles (.nextAlternative ha hnext) (ih hnext hd' (by omega))
    | none =>
      by_cases hm : matched = .empty
      · subst hm
        exact Step.settles (.reject ha hnext) (settles_of_isFinal rfl)
      · exact Step.settles (.escalate ha hnext hm) (settles_of_backtrack _ _)

/-- The number of tokens left, and the weight of what can come before the next one. -/
def effort (g : Grammar) (s : TokenStream) (weight : Nat → Nat) (cursor : Nat)
    (pending : Stack Symbol) : ℕ ×ₗ ℕ :=
  toLex (s.size - cursor, Grammar.leadingWeight g.nullable weight pending.values)

theorem effort_expansion_lt (hw : g.Outweighs weight) {id : Nat} {alternative : List Symbol}
    (ha : alternative ∈ g.alternativesOf id) :
    effort g s weight cursor (pending.pushAll alternative) <
      effort g s weight cursor (pending.push (.nonTerminal id)) := by
  refine Prod.Lex.toLex_lt_toLex.mpr (.inr ⟨rfl, ?_⟩)
  rw [Stack.values_pushAll, Stack.values_push]
  exact hw.leadingWeight_lt ha pending.values

theorem effort_consume_lt {id : Nat} (ha : g.AcceptsAt s cursor id) :
    effort g s weight (cursor + 1) pending <
      effort g s weight cursor (pending.push (.terminal id)) := by
  have hlt := ha.lt_size
  exact Prod.Lex.toLex_lt_toLex.mpr (.inl (by omega))

theorem matchingSettles (hg : g.WellFormed) (hs : start < g.rules.size) (hw : g.Outweighs weight) :
    MatchingSettles g s start cursor matched pending history := by
  -- Each step leaves fewer tokens, or as many and less that can come before the next of them.
  induction he : effort g s weight cursor pending using WellFoundedLT.induction generalizing cursor
    matched pending history with
  | ind e ih =>
    subst he
    intro transition exhausted hc
    obtain ⟨d, hd⟩ := hc.progress_matching hg hs rfl
    have hinv := hd.invariant hc
    cases hd with
    | expansion first =>
      refine Step.settles (.expansion first) (hinv.settles_alternatives ?_ first)
      intro i alternative ha
      exact ih _ (effort_expansion_lt hw (List.mem_of_getElem? ha)) rfl
    | consume accepted =>
      have hrest := ih _ (effort_consume_lt accepted) rfl _ _ hinv
      refine Step.settles (.consume accepted) (hinv.settles_trans hrest ?_)
      intro transition exhausted _
      exact Step.settles .retreat (settles_of_backtrack _ _)
    | acceptance consumed =>
      exact Step.settles (.acceptance consumed) (settles_of_isFinal rfl)
    | mismatch refused => exact Step.settles (.mismatch refused) (settles_of_backtrack _ _)
    | earlyEnd early => exact Step.settles (.earlyEnd early) (settles_of_backtrack _ _)

theorem exists_run_isFinal (hg : g.WellFormed) (hs : start < g.rules.size)
    (hg' : g.leftRecursiveCycles = []) (s : TokenStream) :
    ∃ n c, Run g s n (initial start) c ∧ c.isFinal = true := by
  have hw := Grammar.outweighs_weight (Grammar.wellFounded_of_leftRecursiveCycles hg')
  -- Coming back would leave nothing dealt with in a configuration that goes back.
  obtain ⟨n, c, hr, hf | ⟨transition, exhausted, rfl⟩⟩ :=
    matchingSettles hg hs hw _ _ (invariant_initial (s := s))
  · exact ⟨n, c, hr, hf⟩
  · exact absurd rfl (hr.invariant.matched_ne_empty rfl)

end Configuration

open TopDown.Configuration

variable {g : Grammar} {s : TokenStream} {start n : Nat} {c : Configuration}

theorem Grammar.parseStream?_of_run (h : Run g s n (.initial start) c) (hf : c.isFinal = true)
    (clock : Nat → Nat) {patience : Nat} (hn : n ≤ patience) :
    ∃ t, g.parseStream? s start .none clock patience = some (.ok t) ∧ t.last = c := by
  obtain ⟨t, ht, hr⟩ := Trace.exists_returns_of_run (t := ⟨.initial start, #[]⟩) h hf rfl
  exact ⟨t, hr.extend?_eq hn, ht⟩

theorem Grammar.parse?_of_leftRecursiveCycles (hg : g.WellFormed) (h : g.leftRecursiveCycles = [])
    (tokens : List String) {name : Option String} (hname : ∀ x ∈ name, g.isNonTerminal x = true) :
    ∃ n, ∀ clock patience, n ≤ patience →
      ∃ t, g.parse? tokens name .none clock patience = some (.ok t) := by
  have hid : ∃ id < g.rules.size, ∀ clock patience, g.parse? tokens name .none clock patience =
      g.parseStream? (.ofTokens tokens g.endMarker) id .none clock patience := by
    cases name with
    | none => exact ⟨g.entryPoint, hg.entryPoint_lt, fun _ _ ↦ rfl⟩
    | some x =>
      obtain ⟨id, hx⟩ := Option.isSome_iff_exists.mp (hname x rfl)
      refine ⟨id, lt_of_nonTerminal? hx, fun _ _ ↦ ?_⟩
      simp only [parse?, hx]
  obtain ⟨id, hlt, hp⟩ := hid
  obtain ⟨n, c, hr, hf⟩ := exists_run_isFinal hg hlt h (.ofTokens tokens g.endMarker)
  refine ⟨n, fun clock patience hn ↦ ?_⟩
  obtain ⟨t, ht, -⟩ := parseStream?_of_run hr hf clock hn
  exact ⟨t, (hp clock patience).trans ht⟩

/--
Without left recursion, which building a grammar excludes unless it is allowed, every run reaches
acceptance or rejection, and without limits the parser returns its trace.
-/
theorem run_ends_of_no_leftRecursion {b : GrammarBuilder} (hb : b.build = .ok g) :
    (b.allowLeftRecursion = false → g.leftRecursiveCycles = []) ∧
    (g.leftRecursiveCycles = [] →
      (∀ start < g.rules.size, ∀ s : TokenStream, ∃ n c, Run g s n (.initial start) c ∧
        (c.mode = .success ∨ c.mode = .fail) ∧
        ∀ (clock : Nat → Nat) (patience : Nat), n ≤ patience →
          ∃ t, g.parseStream? s start .none clock patience = some (.ok t) ∧ t.last = c) ∧
      ∀ (tokens : List String) (name : Option String), (∀ x ∈ name, g.isNonTerminal x = true) →
        ∃ n, ∀ (clock : Nat → Nat) (patience : Nat), n ≤ patience →
          ∃ t, g.parse? tokens name .none clock patience = some (.ok t)) := by
  have hg := GrammarBuilder.build_wellFormed hb
  refine ⟨Grammar.leftRecursiveCycles_of_build hb, fun h ↦ ⟨fun start hs s ↦ ?_, ?_⟩⟩
  · obtain ⟨n, c, hr, hf⟩ := exists_run_isFinal hg hs h s
    refine ⟨n, c, hr, ?_, fun clock patience hn ↦ Grammar.parseStream?_of_run hr hf clock hn⟩
    unfold isFinal at hf
    cases hm : c.mode <;> simp [hm, Mode.isFinal] at hf ⊢
  · exact fun tokens name hname ↦ Grammar.parse?_of_leftRecursiveCycles hg h tokens hname

theorem run_ends_of_no_leftRecursion_oneOrTwo :
    GrammarBuilder.oneOrTwo.build = .ok .oneOrTwo ∧ Grammar.oneOrTwo.leftRecursiveCycles = [] ∧
    (∃ n c, Run .oneOrTwo (.ofTokens ["a", "a", "a"] "#") n (.initial 0) c ∧
      (c.mode = .success ∨ c.mode = .fail)) ∧
    ∃ n, ∀ (clock : Nat → Nat) (patience : Nat), n ≤ patience →
      ∃ t, Grammar.oneOrTwo.parse? ["a", "a", "a"] (some "A") .none clock patience =
        some (.ok t) := by
  have h := run_ends_of_no_leftRecursion build_oneOrTwo
  have hc := h.1 rfl
  obtain ⟨n, c, hr, hm, -⟩ := (h.2 hc).1 0 (by decide) (.ofTokens ["a", "a", "a"] "#")
  refine ⟨build_oneOrTwo, hc, ⟨n, c, hr, hm⟩, (h.2 hc).2 ["a", "a", "a"] (some "A") ?_⟩
  rintro x ⟨⟩
  decide +kernel

end TopDown
