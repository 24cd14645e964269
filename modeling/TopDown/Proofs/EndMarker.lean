import TopDown.Proofs.Rebuild

namespace TopDown

open TopDown.Configuration

namespace GrammarBuilder

variable {b : GrammarBuilder} {g : Grammar}

theorem endMarker_of_build (h : b.build = .ok g) : g.endMarker = b.endMarker := by
  obtain ⟨entryPoint, terminals, warnings, -, -, -, -, rfl⟩ := build_eq_ok_iff.mp h
  rfl

theorem build_withEndMarker (h : b.build = .ok g) (m : String) :
    (b.withEndMarker m).build = .ok { g with endMarker := m } := by
  obtain ⟨entryPoint, terminals, warnings, he, hp, ht, hv, rfl⟩ := build_eq_ok_iff.mp h
  have hcongr : ((b.withEndMarker m).draft entryPoint terminals).validate b.allowLeftRecursion =
      (b.draft entryPoint terminals).validate b.allowLeftRecursion :=
    Grammar.validate_congr (by rfl) (by rfl) _
  exact build_eq_ok_iff.mpr ⟨entryPoint, terminals, warnings, he, hp, ht, hcongr.trans hv, rfl⟩

end GrammarBuilder

theorem TokenStream.ofTokens_eq {tokens : List String} {m : String}
    (h : tokens.getLast? ≠ some m) : ofTokens tokens m = ⟨tokens.toArray, m⟩ := by
  rw [ofTokens, if_neg h]

section

variable {g : Grammar} {s : TokenStream} {input : Array String} {m m' : String}
  {c d : Configuration}

theorem Grammar.AcceptsAt.lt_input_size (hm : ∀ id, g.accepts id s.endMarker = false) {i id : Nat}
    (h : g.AcceptsAt s i id) : i < s.input.size := by
  obtain ⟨token, ht, ha⟩ := h
  unfold TokenStream.get? at ht
  split at ht
  · assumption
  · split at ht
    · cases ht
      rw [hm] at ha
      cases ha
    · cases ht

theorem Configuration.Step.cursor_le (hm : ∀ id, g.accepts id s.endMarker = false)
    (h : Step g s c d) (hc : c.cursor ≤ s.input.size) : d.cursor ≤ s.input.size := by
  cases h with
  | consume accepted => exact accepted.lt_input_size hm
  | retreat => exact Nat.le_of_succ_le hc
  | expansion | acceptance | mismatch | earlyEnd | nextAlternative | reject | escalate => exact hc

theorem Configuration.Run.cursor_le (hm : ∀ id, g.accepts id s.endMarker = false) {start n : Nat}
    (h : Run g s n (.initial start) c) : c.cursor ≤ s.input.size :=
  h.preserves (P := fun c ↦ c.cursor ≤ s.input.size) (fun _ _ hc hs ↦ hs.cursor_le hm hc)
    (Nat.zero_le _)

theorem Configuration.Run.le_cursor_of_success {start n : Nat} (h : Run g s n (.initial start) c)
    (hc : c.mode = .success) : s.input.size ≤ c.cursor := by
  cases n with
  | zero =>
    cases h
    cases hc
  | succ n =>
    obtain ⟨b, -, hlast⟩ := h.exists_last
    cases hlast with
    | acceptance consumed => exact consumed
    | expansion | consume | mismatch | earlyEnd | retreat | nextAlternative | reject | escalate =>
      cases hc

theorem Configuration.acceptsToken_endMarker (hm : ∀ id, g.accepts id m = false)
    (hm' : ∀ id, g.accepts id m' = false) (c : Configuration) (id : Nat) :
    c.acceptsToken { g with endMarker := m' } ⟨input, m'⟩ id = c.acceptsToken g ⟨input, m⟩ id := by
  unfold acceptsToken TokenStream.get?
  dsimp only
  split
  · rfl
  · split
    · exact (hm' id).trans (hm id).symm
    · rfl

theorem Configuration.step_endMarker (input : Array String) (hm : ∀ id, g.accepts id m = false)
    (hm' : ∀ id, g.accepts id m' = false) (c : Configuration) :
    c.step { g with endMarker := m' } ⟨input, m'⟩ = c.step g ⟨input, m⟩ := by
  unfold step matchingStep
  simp only [acceptsToken_endMarker hm hm']
  rfl

theorem Grammar.parse?_endMarker (hm : ∀ id, g.accepts id g.endMarker = false)
    (hm' : ∀ id, g.accepts id m' = false) {tokens : List String}
    (hlast : tokens.getLast? ≠ some g.endMarker) (hlast' : tokens.getLast? ≠ some m')
    (start : Option String) (limits : Limits) (clock : Nat → Nat) (patience : Nat) :
    ({ g with endMarker := m' } : Grammar).parse? tokens start limits clock patience =
      g.parse? tokens start limits clock patience := by
  have hstream := parseStream?_congr (step_endMarker tokens.toArray hm hm')
  unfold parse?
  rw [TokenStream.ofTokens_eq hlast, TokenStream.ofTokens_eq hlast']
  cases start with
  | none => exact hstream _ limits clock patience
  | some name =>
    have hname : ({ g with endMarker := m' } : Grammar).nonTerminal? name = g.nonTerminal? name :=
      rfl
    simp only [hname, hstream]

end

/--
Two builders that differ in their end markers only, of which no terminal accepts either: on tokens
that end with neither of them, both grammars parse alike from each start and within all limits. No
run goes beyond the tokens, and a run that accepts ends after the last of them.
-/
theorem end_marker_unobservable {b : GrammarBuilder} {m m' : String} {g g' : Grammar}
    (hb : (b.withEndMarker m).build = .ok g) (hb' : (b.withEndMarker m').build = .ok g')
    (hm : ∀ t ∈ g.terminals.toList, t.accepts m = false ∧ t.accepts m' = false)
    {tokens : List String} (hlast : tokens.getLast? ≠ some m) (hlast' : tokens.getLast? ≠ some m') :
    (∀ start limits clock patience,
      g.parse? tokens start limits clock patience =
        g'.parse? tokens start limits clock patience ∧
      (limits.maxSteps.isSome → (g.parse? tokens start limits clock patience).isSome)) ∧
    (∀ start limits clock patience,
      g.parseStream? (.ofTokens tokens m) start limits clock patience =
        g'.parseStream? (.ofTokens tokens m') start limits clock patience ∧
      (limits.maxSteps.isSome →
        (g.parseStream? (.ofTokens tokens m) start limits clock patience).isSome)) ∧
    ∀ start n c,
      (Run g (.ofTokens tokens m) n (.initial start) c ↔
        Run g' (.ofTokens tokens m') n (.initial start) c) ∧
      (Run g (.ofTokens tokens m) n (.initial start) c →
        c.cursor ≤ tokens.length ∧ (c.mode = .success → c.cursor = tokens.length)) := by
  obtain rfl : g' = { g with endMarker := m' } :=
    Except.ok.inj (hb'.symm.trans (GrammarBuilder.build_withEndMarker hb m'))
  obtain rfl : g.endMarker = m := GrammarBuilder.endMarker_of_build hb
  have hrefuses (token : String) (h : ∀ t ∈ g.terminals.toList, t.accepts token = false)
      (id : Nat) : g.accepts id token = false := by
    rw [Grammar.accepts, Option.any_eq_false]
    intro t ht
    exact h t (Array.mem_toList_iff.mpr (Array.mem_of_getElem? ht))
  have hrefuse := hrefuses g.endMarker fun t ht ↦ (hm t ht).1
  have hrefuse' := hrefuses m' fun t ht ↦ (hm t ht).2
  rw [TokenStream.ofTokens_eq hlast, TokenStream.ofTokens_eq hlast']
  have hstep := step_endMarker tokens.toArray hrefuse hrefuse'
  refine ⟨?_, ?_, ?_⟩
  · intro start limits clock patience
    exact ⟨(Grammar.parse?_endMarker hrefuse hrefuse' hlast hlast' start limits clock
      patience).symm, fun hl ↦ g.isSome_parse? tokens start hl clock patience⟩
  · intro start limits clock patience
    exact ⟨(Grammar.parseStream?_congr hstep start limits clock patience).symm,
      fun hl ↦ g.isSome_parseStream? _ start hl clock patience⟩
  · intro start n c
    refine ⟨⟨fun h ↦ h.congr hstep, fun h ↦ h.congr fun c ↦ (hstep c).symm⟩, fun h ↦ ?_⟩
    have hle : c.cursor ≤ tokens.length := h.cursor_le hrefuse
    exact ⟨hle, fun hc ↦ Nat.le_antisymm hle (h.le_cursor_of_success hc)⟩

theorem end_marker_unobservable_oneOrTwo :
    (GrammarBuilder.oneOrTwo.withEndMarker "#").build = .ok .oneOrTwo ∧
    (GrammarBuilder.oneOrTwo.withEndMarker "$").build =
      .ok { Grammar.oneOrTwo with endMarker := "$" } ∧
    (∀ t ∈ Grammar.oneOrTwo.terminals.toList, t.accepts "#" = false ∧ t.accepts "$" = false) ∧
    (∀ limits clock patience,
      Grammar.oneOrTwo.parse? ["a", "a", "b"] none limits clock patience =
        { Grammar.oneOrTwo with endMarker := "$" }.parse? ["a", "a", "b"] none limits clock
          patience ∧
      (limits.maxSteps.isSome →
        (Grammar.oneOrTwo.parse? ["a", "a", "b"] none limits clock patience).isSome)) ∧
    ∃ c, Run { Grammar.oneOrTwo with endMarker := "$" } (.ofTokens ["a", "a", "b"] "$") 10
      (.initial 0) c ∧ c.mode = .success ∧ c.cursor = 3 := by
  have hb : (GrammarBuilder.oneOrTwo.withEndMarker "#").build = .ok .oneOrTwo := build_oneOrTwo
  have hb' := GrammarBuilder.build_withEndMarker build_oneOrTwo "$"
  have hm : ∀ t ∈ Grammar.oneOrTwo.terminals.toList,
      t.accepts "#" = false ∧ t.accepts "$" = false := by decide
  have hlast : ["a", "a", "b"].getLast? ≠ some "#" := by decide
  have hlast' : ["a", "a", "b"].getLast? ≠ some "$" := by decide
  obtain ⟨hparse, -, hrun⟩ := end_marker_unobservable hb hb' hm hlast hlast'
  have hr : Run .oneOrTwo (.ofTokens ["a", "a", "b"] "#") 10 (.initial 0)
      ⟨.success, 3, .ofList [.nonTerminal 0, .nonTerminal 1, .terminal 1, .terminal 1, .terminal 0],
        .ofList [.endMarker], .ofList [0, 1], .acceptance, false⟩ := by decide +kernel
  obtain ⟨hiff, hcursor⟩ := hrun 0 10 _
  exact ⟨hb, hb', hm, hparse none, _, hiff.mp hr, rfl, (hcursor hr).2 rfl⟩

end TopDown
