import TopDown.Demo
import TopDown.Proofs.GeneratedSentence
import TopDown.Proofs.Lexeme

namespace TopDown

namespace Demo

open Tokenizer TopDown.Regex

variable {g : Grammar} {t : Terminal} {token : String}

theorem parse_identifier :
    parse identifier = .ok (.seq (.set (members [('a', 'z')])) (manyOrNone wordChar)) := by
  decide +kernel

theorem parse_integer : parse integer = .ok (many figure) := by
  decide +kernel

theorem parse_decimal :
    parse decimal = .ok (.seq (many figure) (.seq dot (many figure))) := by
  decide +kernel

theorem parse_word : parse word = .ok (many wordChar) := by
  decide +kernel

theorem matchesWhole_of_accepts {source : String} {r : Regex} {p : Pattern}
    (hr : parse source = .ok r) (hp : Pattern.ofSource source = .ok p)
    (h : p.accepts token = true) : r.MatchesWhole token.toList.toArray := by
  have hopen : parse source ≠ .error .unopenedGroup := by
    rw [hr]
    exact nofun
  obtain ⟨r', hr', haccepts⟩ := Pattern.acceptsWhole hopen hp
  cases hr.symm.trans hr'
  exact (haccepts token).mp h

theorem lexeme_of_pattern {source : String} (hs : source ∈ builder.patterns) {p : Pattern}
    (hp : Pattern.ofSource source = .ok p) (h : p.accepts token = true) : Lexeme token.toList := by
  simp only [builder, List.mem_cons, List.not_mem_nil, or_false] at hs
  obtain rfl | rfl | rfl | rfl := hs
  · apply lexeme_of_matchesWhole (by decide) _ (matchesWhole_of_accepts parse_identifier hp h)
    exact List.forall_mem_cons.mpr ⟨wordChar_of_members (by decide),
      List.forall_mem_singleton.mpr fun c hc ↦ hc⟩
  · apply lexeme_of_matchesWhole (by decide) _ (matchesWhole_of_accepts parse_integer hp h)
    exact List.forall_mem_singleton.mpr (wordChar_of_members (by decide))
  · exact lexeme_of_decimal (matchesWhole_of_accepts parse_decimal hp h)
  · apply lexeme_of_matchesWhole (by decide) _ (matchesWhole_of_accepts parse_word hp h)
    exact List.forall_mem_singleton.mpr fun c hc ↦ hc

theorem isToken_of_literal {text : String} (ht : text ∈ builder.terminalTexts)
    (hp : text ∉ builder.patterns) : standardRegex.IsToken text.toList := by
  have hall : ∀ text ∈ builder.terminalTexts, text ∉ builder.patterns →
      text.toList ≠ [] ∧ (text.toList.all fun c ↦ !Unicode.isBlank c) = true ∧
        (ends text.toList.toArray standardRegex 0).head? = some text.toList.length := by
    decide +kernel
  obtain ⟨hne, hblank, hhead⟩ := hall text ht hp
  refine ⟨hne, fun c hc ↦ ?_, hhead⟩
  simpa using List.all_eq_true.mp hblank c hc

theorem isToken_of_accepts (hg : builder.build = .ok g) (ht : t ∈ g.terminals.toList)
    (h : t.accepts token = true) : standardRegex.IsToken token.toList := by
  by_cases hp : t.text ∈ builder.patterns
  · obtain ⟨p, hsource, rfl⟩ := GrammarBuilder.pattern_of_mem_terminals hg hp ht
    exact (lexeme_of_pattern hp hsource h).isToken
  · have hmem : t.text ∈ builder.terminalTexts := by
      rw [← GrammarBuilder.texts_terminals hg]
      exact List.mem_map_of_mem ht
    have hliteral := GrammarBuilder.classify_of_not_infersPattern (b := builder) rfl hp
    rw [GrammarBuilder.classify_text hg ht, Except.ok.injEq] at hliteral
    rw [hliteral, Terminal.accepts, beq_iff_eq] at h
    exact h ▸ isToken_of_literal hmem hp

theorem exists_grammar : ∃ g, grammar = .ok g := by
  have hok : grammar.isOk = true := by decide +kernel
  cases hg : grammar with
  | ok g => exact ⟨g, rfl⟩
  | error e =>
    rw [hg] at hok
    cases hok

end Demo

theorem Grammar.AcceptsEach.exists_terminal {g : Grammar} {w : List Nat} {tokens : List String}
    (h : g.AcceptsEach w tokens) :
    ∀ token ∈ tokens, ∃ terminal ∈ g.terminals.toList, terminal.accepts token = true := by
  intro token htoken
  induction h with
  | nil => cases htoken
  | cons haccepts _ ih =>
    obtain rfl | htoken := List.mem_cons.mp htoken
    · obtain ⟨terminal, hterminal, haccepts⟩ := (Option.any_eq_true _ _).mp haccepts
      exact ⟨terminal, Array.mem_toList_iff.mpr (Array.mem_of_getElem? hterminal), haccepts⟩
    · exact ih htoken

theorem Sentence.Generator.generates_of_generate {gen : Sentence.Generator} {tokens : List String}
    (h : gen.generate = some tokens) (hg : gen.grammar.WellFormed) (hs : gen.SamplesAccepted) :
    gen.grammar.Generates [.nonTerminal gen.grammar.entryPoint] tokens :=
  generates_of_expand hg hs (Prod.ext h rfl)

theorem Text.splitLines_line {line : List Char} (hne : line ≠ [])
    (h : ∀ c ∈ line, c ≠ '\n' ∧ c ≠ '\r') : splitLines line = [line] := by
  induction line with
  | nil => exact absurd rfl hne
  | cons c line ih =>
    obtain ⟨⟨hn, hr⟩, hline⟩ := List.forall_mem_cons.mp h
    have hrest : splitLines line = [] ∧ line = [] ∨ splitLines line = [line] := by
      cases line with
      | nil => exact .inl ⟨rfl, rfl⟩
      | cons d line => exact .inr (ih (List.cons_ne_nil d line) hline)
    rw [splitLines]
    · obtain ⟨hnil, rfl⟩ | hone := hrest
      · rw [hnil]
      · rw [hone]
    · exact hn
    · intro rest hc
      exact absurd hc hr

namespace Tokenizer

variable {t : Tokenizer} {tokens : List String}

theorem splitLines_intercalate (hne : tokens ≠ [])
    (h : ∀ token ∈ tokens, t.regex.IsToken token.toList) :
    Text.splitLines (" ".intercalate tokens).toList = [(" ".intercalate tokens).toList] := by
  rw [toList_intercalate_space]
  apply Text.splitLines_line
  · obtain ⟨token, tokens, rfl⟩ := List.exists_cons_of_ne_nil hne
    have htoken := (h token List.mem_cons_self).ne_nil
    cases tokens with
    | nil => simpa using htoken
    | cons next tokens =>
      rw [List.map_cons, List.map_cons, Regex.intercalate_space]
      simp
  · rw [← toList_intercalate_space]
    exact not_lineBreak_of_mem_intercalate h

theorem read_back_intercalate (ht : t.regex.Separates)
    (h : ∀ token ∈ tokens, t.regex.IsToken token.toList) :
    t.tokenizeFlat (" ".intercalate tokens) = tokens ∧
      t.unmatched (" ".intercalate tokens) = [] := by
  by_cases hne : tokens = []
  · subst hne
    exact ⟨rfl, rfl⟩
  · have hlines := splitLines_intercalate hne h
    constructor
    · rw [tokenizeFlat, tokenize, hlines, List.map_singleton, tokenizeLine_intercalate ht h]
      simp
    · rw [unmatched, hlines, List.mapIdx_singleton, unmatchedInLine_intercalate ht _ h]
      rfl

end Tokenizer

/--
Tokens that terminals of the small language accept are what the standard tokenizer finds in their
text, if there is a space between each two of them, and it finds nothing else in there.
-/
theorem demo_tokens_read_back : ∃ g t, Demo.grammar = .ok g ∧ Tokenizer.standard = .ok t ∧
    (∀ tokens : List String,
      (∀ token ∈ tokens, ∃ terminal ∈ g.terminals.toList, terminal.accepts token = true) →
        t.tokenizeFlat (" ".intercalate tokens) = tokens ∧
          t.unmatched (" ".intercalate tokens) = []) ∧
    ∀ tokens, g.Generates [.nonTerminal g.entryPoint] tokens →
      t.tokenizeFlat (" ".intercalate tokens) = tokens ∧
        t.unmatched (" ".intercalate tokens) = [] := by
  obtain ⟨g, hg⟩ := Demo.exists_grammar
  obtain ⟨t, ht, hseparates⟩ := Tokenizer.exists_standard
  cases ht.symm.trans Tokenizer.standard_eq
  refine ⟨g, _, hg, Tokenizer.standard_eq, ?_⟩
  -- The tokens of a sentence are accepted by terminals, one each.
  rw [and_iff_left_of_imp]
  · intro tokens h
    apply Tokenizer.read_back_intercalate hseparates
    intro token htoken
    obtain ⟨terminal, hterminal, haccepts⟩ := h token htoken
    exact Demo.isToken_of_accepts hg hterminal haccepts
  · intro hread tokens hgenerates
    obtain ⟨w, -, hw⟩ := hgenerates
    exact hread tokens hw.exists_terminal

/-- Words that begin with a digit or an underscore, and a sentence with a decimal number. -/
theorem demo_tokens_read_back_words : ∃ g t, Demo.grammar = .ok g ∧ Tokenizer.standard = .ok t ∧
    let tokens := ["9_a", "_x", "3.14", "0", "\"", "#"]
    let sentence := ["fin", "a", "=", "0.5", ";", "entero", "a", ";", "inicio"]
    (∀ token ∈ tokens, ∃ terminal ∈ g.terminals.toList, terminal.accepts token = true) ∧
    t.tokenizeFlat "9_a _x 3.14 0 \" #" = tokens ∧
    g.Generates [.nonTerminal g.entryPoint] sentence ∧
    t.tokenizeFlat "fin a = 0.5 ; entero a ; inicio" = sentence := by
  obtain ⟨g, t, hg, ht, hread, hgenerates⟩ := demo_tokens_read_back
  refine ⟨g, t, hg, ht, ?_⟩
  intro tokens sentence
  have hchecked : (Demo.grammar.toOption.any fun g ↦
      (tokens.all fun token ↦ g.terminals.toList.any (·.accepts token)) &&
        Sentence.Generator.generate { grammar := g, seed := some 5 } == some sentence) = true := by
    decide +kernel
  rw [hg, Except.toOption, Option.any_some, Bool.and_eq_true, beq_iff_eq] at hchecked
  have htokens : ∀ token ∈ tokens, ∃ terminal ∈ g.terminals.toList,
      terminal.accepts token = true := by
    intro token htoken
    exact List.any_eq_true.mp (List.all_eq_true.mp hchecked.1 token htoken)
  have hsentence : g.Generates [.nonTerminal g.entryPoint] sentence :=
    Sentence.Generator.generates_of_generate hchecked.2 (GrammarBuilder.build_wellFormed hg)
      fun _ h ↦ absurd h List.not_mem_nil
  exact ⟨htokens, (hread tokens htokens).1, hsentence, (hgenerates sentence hsentence).1⟩

end TopDown
