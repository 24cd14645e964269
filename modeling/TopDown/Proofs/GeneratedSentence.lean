import Mathlib.Data.List.GetD
import TopDown.Proofs.Termination
import TopDown.Proofs.Verdict
import TopDown.Sentence.Generator

namespace TopDown

open TopDown.Configuration TopDown.Symbol

variable {g : Grammar}

def Grammar.AcceptsEach (g : Grammar) (w : List Nat) (tokens : List String) : Prop :=
  List.Forall₂ (fun id token ↦ g.accepts id token = true) w tokens

def Grammar.Generates (g : Grammar) (xs : List Symbol) (tokens : List String) : Prop :=
  ∃ w, g.Derives xs (w.map .terminal) ∧ g.AcceptsEach w tokens

theorem Grammar.generates_nil : g.Generates [] [] :=
  ⟨[], .refl, .nil⟩

theorem Grammar.generates_terminal {id : Nat} {token : String} (h : g.accepts id token = true) :
    g.Generates [.terminal id] [token] :=
  ⟨[id], .refl, .cons h .nil⟩

theorem Grammar.generates_nonTerminal {id : Nat} {alternative : List Symbol} {tokens : List String}
    (ha : alternative ∈ g.alternativesOf id) (h : g.Generates alternative tokens) :
    g.Generates [.nonTerminal id] tokens := by
  obtain ⟨w, hd, hw⟩ := h
  have hr : g.Rewrites [.nonTerminal id] alternative := by
    simpa only [List.nil_append, List.append_nil] using Grammar.Rewrites.replace [] [] ha
  exact ⟨w, .head hr hd, hw⟩

theorem Grammar.generates_append {xs ys : List Symbol} {tokens more : List String}
    (hx : g.Generates xs tokens) (hy : g.Generates ys more) :
    g.Generates (xs ++ ys) (tokens ++ more) := by
  obtain ⟨w, hd, hw⟩ := hx
  obtain ⟨v, hd', hv⟩ := hy
  obtain ⟨m, k, hr, rfl⟩ := hd.exists_replays
  obtain ⟨m', k', hr', rfl⟩ := hd'.exists_replays
  refine ⟨_, derives_iff_exists_replays.mpr ⟨m ++ m', k ++ k', (hr.frame ys).trans hr', ?_⟩,
    List.rel_append hw hv⟩
  exact terminalsOf_append m m'

namespace TokenStream

variable {tokens : List String} {endMarker : String}

/-- Tokens that end with the end marker are the whole stream, and others are its input. -/
theorem size_ofTokens (tokens : List String) (endMarker : String) :
    tokens.length = (ofTokens tokens endMarker).input.size ∨
      tokens.length = (ofTokens tokens endMarker).size := by
  unfold ofTokens size
  by_cases h : tokens.getLast? = some endMarker
  · have hpos := List.length_pos_of_ne_nil (List.ne_nil_of_mem (List.mem_of_getLast? h))
    simp only [h, if_true, List.size_toArray, List.length_dropLast]
    omega
  · simp only [h, if_false, List.size_toArray, true_or]

theorem get?_ofTokens {i : Nat} (hi : i < tokens.length) :
    (ofTokens tokens endMarker).get? i = some tokens[i] := by
  unfold ofTokens get?
  by_cases h : tokens.getLast? = some endMarker
  · simp only [h, if_true, List.size_toArray, List.length_dropLast, List.getElem_toArray,
      List.getElem_dropLast]
    split
    · rfl
    · have hlast : i = tokens.length - 1 := by omega
      subst hlast
      rw [List.getLast?_eq_getElem?, List.getElem?_eq_getElem hi] at h
      rw [if_pos rfl, h]
  · simp [h, hi]

end TokenStream

theorem Grammar.AcceptsEach.covers {w : List Nat} {tokens : List String}
    (h : g.AcceptsEach w tokens) (endMarker : String) :
    g.Covers (.ofTokens tokens endMarker) w := by
  rw [AcceptsEach, List.forall₂_iff_get] at h
  obtain ⟨hlen, hget⟩ := h
  refine ⟨hlen ▸ TokenStream.size_ofTokens tokens endMarker, fun i id hi ↦ ?_⟩
  obtain ⟨hw, rfl⟩ := List.getElem?_eq_some_iff.mp hi
  have ht : i < tokens.length := hlen ▸ hw
  exact ⟨tokens[i], TokenStream.get?_ofTokens ht, hget i hw ht⟩

theorem Configuration.exists_run_of_generates (hg : g.WellFormed)
    (hc : g.leftRecursiveCycles = []) {start : Nat} (hs : start < g.rules.size)
    {tokens : List String} (h : g.Generates [.nonTerminal start] tokens) (endMarker : String) :
    ∃ n c, Run g (.ofTokens tokens endMarker) n (.initial start) c ∧ c.mode = .success := by
  obtain ⟨w, hd, hw⟩ := h
  obtain ⟨n, c, hr, hf⟩ := exists_run_isFinal hg hs hc (.ofTokens tokens endMarker)
  have hne : c.mode ≠ .fail := fun hm ↦
    hr.not_derives_of_fail hm ⟨w, hd, hw.covers endMarker⟩
  exact ⟨n, c, hr, (isFinal_iff.mp hf).resolve_right hne⟩

namespace Sentence.Generator

variable {gen : Generator} {fuel depth id : Nat} {rng rng' : Rng} {tokens : List String}

def SamplesAccepted (gen : Generator) : Prop :=
  ∀ s ∈ gen.samples, gen.grammar.accepts s.1 s.2 = true

theorem lt_length_of_mem_candidates {alternatives : List (List Symbol)} {i : Nat}
    (h : i ∈ gen.candidates alternatives depth) : i < alternatives.length := by
  have hidx {p : Option Nat × Nat → Bool}
      (hi : i ∈ ((((alternatives.map (Grammar.alternativeHeight? gen.heights)).zipIdx).filter
        p).map (·.2))) : i < alternatives.length := by
    obtain ⟨⟨height, j⟩, hm, rfl⟩ := List.mem_map.mp hi
    have hlt := List.snd_lt_of_mem_zipIdx (List.mem_filter.mp hm).1
    rwa [List.length_map] at hlt
  unfold candidates at h
  simp only at h
  split at h
  · split at h
    · cases h
    · exact hidx h
  · exact hidx h

theorem below_lt (rng : Rng) {bound : Nat} (h : 0 < bound) : (rng.below bound).1 < bound :=
  Nat.mod_lt _ h

theorem accepts_sample {token : String} (hs : gen.SamplesAccepted)
    (h : gen.sample id rng = (some token, rng')) : gen.grammar.accepts id token = true := by
  unfold sample at h
  generalize hfound : gen.samples.filterMap (fun s ↦ if s.1 = id then some s.2 else none) = found
    at h
  cases found with
  | nil =>
    simp only at h
    unfold Grammar.accepts
    split at h
    · next text ht =>
      cases h
      simp [ht, Terminal.accepts]
    · next p ht =>
      have hp := List.find?_some (congrArg Prod.fst h)
      simpa [ht, Terminal.accepts] using hp
    · cases h
  | cons first others =>
    have hm := List.mem_of_getElem? (congrArg Prod.fst h)
    rw [← hfound, List.mem_filterMap] at hm
    obtain ⟨s, hmem, hid⟩ := hm
    split_ifs at hid with he
    cases hid
    exact he ▸ hs s hmem

def expandSymbol (gen : Generator) (fuel depth : Nat) (symbol : Symbol) (rng : Rng) :
    Option (List String) × Rng :=
  match symbol with
  | .nonTerminal inner => gen.expand fuel (depth + 1) inner rng
  | .terminal inner =>
    let (token, rng) := gen.sample inner rng
    (token.map ([·]), rng)
  | .endMarker => (some [], rng)

theorem exists_alternative_of_expand
    (h : gen.expand (fuel + 1) depth id rng = (some tokens, rng')) :
    ∃ i alternative rng'', i ∈ gen.candidates (gen.grammar.alternativesOf id) depth ∧
      (gen.grammar.alternativesOf id)[i]? = some alternative ∧
      expandAll (gen.expandSymbol fuel depth) alternative rng'' = (some tokens, rng') := by
  unfold expand at h
  simp only at h
  split at h
  · cases h
  · next candidates hne =>
    have hpos := List.length_pos_of_ne_nil hne
    have hi := below_lt rng hpos
    have hmem := List.getElem_mem hi
    rw [← List.getD_eq_getElem _ 0 hi] at hmem
    have hlt := lt_length_of_mem_candidates hmem
    rw [List.getD_eq_getElem _ [] hlt] at h
    exact ⟨_, _, _, hmem, List.getElem?_eq_getElem hlt, h⟩

theorem generates_of_expandAll {f : Symbol → Rng → Option (List String) × Rng} {xs : List Symbol}
    (hf : ∀ x ∈ xs, ∀ rng rng' tokens, f x rng = (some tokens, rng') → g.Generates [x] tokens)
    (h : expandAll f xs rng = (some tokens, rng')) : g.Generates xs tokens := by
  induction xs generalizing rng tokens with
  | nil =>
    cases h
    exact Grammar.generates_nil
  | cons x xs ih =>
    obtain ⟨hx, hxs⟩ := List.forall_mem_cons.mp hf
    rw [expandAll] at h
    split at h
    · cases h
    · next first r hfirst =>
      split at h
      · cases h
      · next more r' hmore =>
        cases h
        exact Grammar.generates_append (hx _ _ _ hfirst) (ih hxs hmore)

theorem generates_of_expand (hg : gen.grammar.WellFormed) (hs : gen.SamplesAccepted)
    (h : gen.expand fuel depth id rng = (some tokens, rng')) :
    gen.grammar.Generates [.nonTerminal id] tokens := by
  induction fuel generalizing depth id rng rng' tokens with
  | zero => cases h
  | succ fuel ih =>
    obtain ⟨i, alternative, r, -, hi, h⟩ := exists_alternative_of_expand h
    have ha := List.mem_of_getElem? hi
    refine Grammar.generates_nonTerminal ha (generates_of_expandAll (fun x hx r r' more hm ↦ ?_) h)
    cases x with
    | nonTerminal inner => exact ih hm
    | terminal inner =>
      obtain ⟨token, ht, rfl⟩ := Option.map_eq_some_iff.mp (congrArg Prod.fst hm)
      exact Grammar.generates_terminal (accepts_sample hs (Prod.ext ht rfl))
    | endMarker => exact (hg.has_of_mem id alternative ha _ hx).elim

theorem exists_sentence_of_mem_sentences {n : Nat} (h : tokens ∈ gen.sentences n rng) :
    ∃ r r', gen.sentence r = (some tokens, r') := by
  induction n generalizing rng with
  | zero => cases h
  | succ n ih =>
    rw [sentences] at h
    rcases List.mem_append.mp h with h | h
    · exact ⟨rng, _, Prod.ext (Option.mem_toList.mp h) rfl⟩
    · exact ih h

def withSamples (gen : Generator) (samples : List (String × String)) : Generator :=
  samples.foldl (fun gen s ↦ gen.withSample s.1 s.2) gen

@[simp] theorem grammar_withSample (terminal token : String) :
    (gen.withSample terminal token).grammar = gen.grammar := by
  unfold withSample
  split <;> rfl

@[simp] theorem grammar_withSamples (samples : List (String × String)) :
    (gen.withSamples samples).grammar = gen.grammar := by
  unfold withSamples
  induction samples generalizing gen with
  | nil => rfl
  | cons s samples ih => rw [List.foldl_cons, ih, grammar_withSample]

theorem SamplesAccepted.withSample (h : gen.SamplesAccepted) {terminal token : String}
    (ht : ∀ id, gen.grammar.symbol? terminal = some (.terminal id) →
      gen.grammar.accepts id token = true) : (gen.withSample terminal token).SamplesAccepted := by
  unfold Generator.withSample
  split
  · next id hid =>
    intro s hs
    rcases List.mem_append.mp hs with hs | hs
    · exact h s hs
    · rw [List.mem_singleton.mp hs]
      exact ht id hid
  · exact h

theorem SamplesAccepted.withSamples (h : gen.SamplesAccepted) {samples : List (String × String)}
    (hs : ∀ s ∈ samples, ∀ id, gen.grammar.symbol? s.1 = some (.terminal id) →
      gen.grammar.accepts id s.2 = true) : (gen.withSamples samples).SamplesAccepted := by
  unfold Generator.withSamples
  induction samples generalizing gen with
  | nil => exact h
  | cons s samples ih =>
    obtain ⟨hfirst, hrest⟩ := List.forall_mem_cons.mp hs
    refine ih (h.withSample hfirst) ?_
    rwa [grammar_withSample]

end Sentence.Generator

open TopDown.Sentence

/--
The tokens of a random sentence are accepted one by one by terminals that the entry point derives,
if the tokens that were given for terminals are; and without left recursion the parser accepts them.
-/
theorem generated_sentence_accepted {b : GrammarBuilder} (hb : b.build = .ok g) (maxDepth : Nat)
    (seed : Option UInt64) {samples : List (String × String)}
    (hs : ∀ s ∈ samples, ∀ id, g.symbol? s.1 = some (.terminal id) → g.accepts id s.2 = true)
    {tokens : List String}
    (ht : (Generator.withSamples { grammar := g, maxDepth, seed } samples).generate = some tokens ∨
      ∃ n, tokens ∈
        (Generator.withSamples { grammar := g, maxDepth, seed } samples).generateMany n) :
    (∃ w, g.Derives [.nonTerminal g.entryPoint] (w.map .terminal) ∧ g.AcceptsEach w tokens) ∧
    (g.leftRecursiveCycles = [] → ∃ n, ∀ (clock : Nat → Nat) (patience : Nat), n ≤ patience →
      ∃ t, g.parse? tokens none .none clock patience = some (.ok t) ∧ t.accepted = true) := by
  have hg := GrammarBuilder.build_wellFormed hb
  have hd : g.Generates [.nonTerminal g.entryPoint] tokens := by
    generalize hgen : Generator.withSamples { grammar := g, maxDepth, seed } samples = gen at ht
    have hgrammar : gen.grammar = g := hgen ▸ Generator.grammar_withSamples samples
    have hacc : gen.SamplesAccepted :=
      hgen ▸ Generator.SamplesAccepted.withSamples (fun _ h ↦ absurd h List.not_mem_nil) hs
    obtain ⟨r, r', h⟩ : ∃ r r', gen.sentence r = (some tokens, r') := by
      rcases ht with h | ⟨n, h⟩
      · exact ⟨_, _, Prod.ext h rfl⟩
      · exact Generator.exists_sentence_of_mem_sentences h
    rw [← hgrammar] at hg ⊢
    exact Generator.generates_of_expand hg hacc h
  refine ⟨hd, fun hc ↦ ?_⟩
  obtain ⟨n, c, hr, hm⟩ := exists_run_of_generates hg hc hg.entryPoint_lt hd g.endMarker
  have hf : c.isFinal = true := isFinal_iff.mpr (.inl hm)
  refine ⟨n, fun clock patience hn ↦ ?_⟩
  obtain ⟨t, hp, hlast⟩ := Grammar.parseStream?_of_run hr hf clock hn
  refine ⟨t, hp, ?_⟩
  rw [Trace.accepted, hlast, hm]
  rfl

def GrammarBuilder.markedSentences : GrammarBuilder :=
  (GrammarBuilder.withEntryPoint {} "S").withRule "S" [["a", "S"], ["#"]]

def Grammar.markedSentences : Grammar where
  rules := #[⟨"S", [[.terminal 0, .nonTerminal 0], [.terminal 1]]⟩]
  terminals := #[.literal "a", .literal "#"]
  entryPoint := 0
  endMarker := defaultEndMarker
  allowLeftRecursion := false
  warnings := []

theorem generated_sentence_accepted_markedSentences :
    GrammarBuilder.markedSentences.build = .ok .markedSentences ∧
    ["a", "#"] ∈ (Generator.withSamples ⟨.markedSentences, 5, some 7,
      Grammar.markedSentences.heights, []⟩ [("a", "a")]).generateMany 2 ∧
    ∃ n, ∀ (clock : Nat → Nat) (patience : Nat), n ≤ patience →
      ∃ t, Grammar.markedSentences.parse? ["a", "#"] none .none clock patience = some (.ok t) ∧
        t.accepted = true := by
  have hb : GrammarBuilder.markedSentences.build = .ok .markedSentences := by decide +kernel
  have hm : ["a", "#"] ∈ (Generator.withSamples ⟨.markedSentences, 5, some 7,
      Grammar.markedSentences.heights, []⟩ [("a", "a")]).generateMany 2 := by decide +kernel
  have hs : ∀ s ∈ [("a", "a")], ∀ id, Grammar.markedSentences.symbol? s.1 = some (.terminal id) →
      Grammar.markedSentences.accepts id s.2 = true := by
    intro s hmem id hid
    obtain rfl := List.mem_singleton.mp hmem
    have ha : Grammar.markedSentences.symbol? "a" = some (.terminal 0) := by decide +kernel
    cases ha.symm.trans hid
    decide
  have h := generated_sentence_accepted hb 5 (some 7) hs (.inr ⟨2, hm⟩)
  exact ⟨hb, hm, h.2 (by decide +kernel)⟩

end TopDown
