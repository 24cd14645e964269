import TopDown.Proofs.FrontDerivation
import TopDown.Proofs.RecordedTrace
import TopDown.Proofs.SearchOrder

namespace TopDown

open TopDown.Configuration TopDown.Symbol

variable {g : Grammar} {s : TokenStream} {start n : Nat} {c : Configuration}

/-- Unfoldings consume no token, so a parse that fails has tried all of them. -/
theorem Configuration.Run.le_of_unfolds (h : Run g s n (.initial start) c) (hf : c.mode = .fail)
    {l : Nat} {xs : List Symbol} (hu : g.Unfolds l [.nonTerminal start] xs) : l ≤ n := by
  obtain ⟨m, k, hr, hm, hk⟩ := hu.exists_replays
  refine hk ▸ h.length_le_of_fail hf hr ?_
  rw [hm]
  exact Grammar.acceptsPrefix_nil

theorem Grammar.exists_unfolds_of_leftRecursive {id : Nat} {d : List (String × Nat)}
    {rest : List Symbol} (hreach : Relation.ReflTransGen g.LeftCorner start id) (hd : d ≠ [])
    (hrec : g.LeftmostDerivation d [.nonTerminal id] (.nonTerminal id :: rest)) (m : Nat) :
    ∃ l xs, m < l ∧ g.Unfolds l [.nonTerminal start] xs := by
  obtain ⟨n, before, hn⟩ := exists_unfolds_of_leftCorners hreach
  have hlen : d.length ≠ 0 := mt List.length_eq_zero_iff.mp hd
  obtain ⟨l, more, hl, hu⟩ := hrec.unfolds.iterate hlen (m + 1)
  exact ⟨n + l, _, by omega, hn.trans (hu.frame before)⟩

theorem Configuration.Run.mode_ne_fail {id : Nat} {d : List (String × Nat)} {rest : List Symbol}
    (hreach : Relation.ReflTransGen g.LeftCorner start id) (hd : d ≠ [])
    (hrec : g.LeftmostDerivation d [.nonTerminal id] (.nonTerminal id :: rest))
    (h : Run g s n (.initial start) c) : c.mode ≠ .fail := by
  intro hf
  obtain ⟨l, xs, hl, hu⟩ := Grammar.exists_unfolds_of_leftRecursive hreach hd hrec n
  exact absurd (h.le_of_unfolds hf hu) (Nat.not_le.mpr hl)

/--
If left corners lead from the start symbol to a non-terminal that begins something it derives, then
no parse fails, and with a limit on the steps the parser accepts or makes as many as it may.
-/
theorem not_rejected_of_leftRecursive {b : GrammarBuilder} (hb : b.build = .ok g)
    (hs : start < g.rules.size) {id : Nat} {d : List (String × Nat)} {rest : List Symbol}
    (hreach : Relation.ReflTransGen g.LeftCorner start id) (hd : d ≠ [])
    (hrec : g.LeftmostDerivation d [.nonTerminal id] (.nonTerminal id :: rest)) :
    (∀ (s : TokenStream) (n : Nat) (c : Configuration),
      Run g s n (.initial start) c → c.mode ≠ .fail) ∧
    ∀ (s : TokenStream) (k : Nat) (clock : Nat → Nat) (patience : Nat),
      (∃ t, g.parseStream? s start ⟨some k, none⟩ clock patience = some (.ok t) ∧
        t.accepted = true) ∨
      ∃ t, g.parseStream? s start ⟨some k, none⟩ clock patience =
        some (.error (.stepLimitExceeded k t)) ∧ t.size = k + 1 := by
  have hg := GrammarBuilder.build_wellFormed hb
  refine ⟨fun s n c h ↦ h.mode_ne_fail hreach hd hrec, fun s k clock patience ↦ ?_⟩
  obtain ⟨m, hm, r, hr, hcase⟩ : ∃ m ≤ k, ∃ r,
      Trace.Returns g s ⟨some k, none⟩ clock m ⟨.initial start, #[]⟩ r ∧
        ((∃ t, r = .ok t) ∨ ∃ t, r = .error (.stepLimitExceeded k t) ∧ t.steps = k) :=
    Trace.exists_returns_of_progress (fun _ _ hc h ↦ h.invariant hc)
      (fun _ hc ↦ hc.progress hg hs) invariant_initial (Nat.zero_add k)
  have hp : g.parseStream? s start ⟨some k, none⟩ clock patience = some r := hr.extend?_eq hm
  rw [hp]
  rcases hcase with ⟨t, rfl⟩ | ⟨t, rfl, ht⟩
  · refine .inl ⟨t, rfl, ?_⟩
    obtain ⟨hf, hrun⟩ := hr.run
    have hne := Configuration.Run.mode_ne_fail hreach hd hrec hrun
    rw [Trace.accepted, (isFinal_iff.mp hf).resolve_right hne]
    rfl
  · exact .inr ⟨t, rfl, congrArg (· + 1) ht⟩

/-- The recursion of `S` is hidden behind `B`, which can be empty. -/
def GrammarBuilder.hiddenRecursion : GrammarBuilder :=
  (((GrammarBuilder.withEntryPoint {} "S").withRule "S" [["y"], ["B", "S", "x"]]).withRule "B"
    [["b"], []]).allowingLeftRecursion

def Grammar.hiddenRecursion : Grammar where
  rules := #[⟨"S", [[.terminal 0], [.nonTerminal 1, .nonTerminal 0, .terminal 1]]⟩,
    ⟨"B", [[.terminal 2], []]⟩]
  terminals := #[.literal "y", .literal "x", .literal "b"]
  entryPoint := 0
  endMarker := defaultEndMarker
  allowLeftRecursion := true
  warnings := [.leftRecursion ["S", "S"]]

theorem not_rejected_of_leftRecursive_hiddenRecursion :
    GrammarBuilder.hiddenRecursion.build = .ok .hiddenRecursion ∧
    Grammar.hiddenRecursion.LeftmostDerivation [("S", 1), ("B", 1)] [.nonTerminal 0]
      [.nonTerminal 0, .terminal 1] ∧
    (∀ n c, Run .hiddenRecursion (.ofTokens ["z"] "#") n (.initial 0) c → c.mode ≠ .fail) ∧
    ∃ t, Grammar.hiddenRecursion.parseStream? (.ofTokens ["z"] "#") 0 ⟨some 40, none⟩
      (fun _ ↦ 0) 0 = some (.error (.stepLimitExceeded 40 t)) ∧ t.size = 41 := by
  have hb : GrammarBuilder.hiddenRecursion.build = .ok .hiddenRecursion := by decide +kernel
  have hrec : Grammar.hiddenRecursion.LeftmostDerivation [("S", 1), ("B", 1)] [.nonTerminal 0]
      [.nonTerminal 0, .terminal 1] :=
    @Grammar.LeftmostDerivation.step _ [] 0 1 _ [] _ _ rfl
      (@Grammar.LeftmostDerivation.step _ [] 1 1 [] _ _ _ rfl (.refl _))
  obtain ⟨hfail, hlimit⟩ := not_rejected_of_leftRecursive hb (by decide) .refl (by decide) hrec
  refine ⟨hb, hrec, hfail _, ?_⟩
  obtain ⟨t, ht, -⟩ | ht := hlimit (.ofTokens ["z"] "#") 40 (fun _ ↦ 0) 0
  · have hne : (Grammar.hiddenRecursion.parseStream? (.ofTokens ["z"] "#") 0 ⟨some 40, none⟩
        (fun _ ↦ 0) 0).any (·.toOption.isNone) = true := by decide +kernel
    rw [ht] at hne
    cases hne
  · exact ht

end TopDown
