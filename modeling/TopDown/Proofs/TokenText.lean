import TopDown.CommandLine.Program
import TopDown.Proofs.BlankSeparation
import TopDown.Proofs.BuiltGrammar

namespace TopDown

open Unicode (isBlank)

namespace Text

theorem splitLines_append {line : List Char} (h : ∀ c ∈ line, c ≠ '\n' ∧ c ≠ '\r')
    (cs : List Char) : splitLines (line ++ '\n' :: cs) = line :: splitLines cs := by
  induction line with
  | nil => rfl
  | cons c line ih =>
    obtain ⟨⟨hn, hr⟩, hline⟩ := List.forall_mem_cons.mp h
    rw [List.cons_append, splitLines, ih hline]
    · exact hn
    · rintro rest rfl
      exact absurd rfl hr

theorem toList_unlines (lines : List String) :
    (unlines lines).toList = lines.flatMap fun line ↦ line.toList ++ ['\n'] := by
  rw [unlines, String.toList_join, List.flatMap_map]
  simp

theorem splitLines_unlines {lines : List String}
    (h : ∀ line ∈ lines, ∀ c ∈ line.toList, c ≠ '\n' ∧ c ≠ '\r') :
    splitLines (unlines lines).toList = lines.map String.toList := by
  rw [toList_unlines]
  induction lines with
  | nil => rfl
  | cons line lines ih =>
    obtain ⟨hline, hlines⟩ := List.forall_mem_cons.mp h
    rw [List.flatMap_cons, List.append_assoc, List.singleton_append, splitLines_append hline,
      ih hlines, List.map_cons]

theorem splitWordsAux_append {word : List Char} (h : ∀ c ∈ word, isBlank c = false)
    (read cs : List Char) :
    splitWordsAux read (word ++ cs) = splitWordsAux (word.reverse ++ read) cs := by
  induction word generalizing read with
  | nil => rfl
  | cons c word ih =>
    obtain ⟨hc, hword⟩ := List.forall_mem_cons.mp h
    rw [List.cons_append, splitWordsAux, hc, if_neg Bool.false_ne_true, ih hword]
    simp

theorem splitWordsAux_word {word : List Char} (hne : word ≠ []) (h : ∀ c ∈ word, isBlank c = false)
    {c : Char} (hc : isBlank c = true) (cs : List Char) :
    splitWordsAux [] (word ++ c :: cs) = word :: splitWordsAux [] cs := by
  rw [splitWordsAux_append h, splitWordsAux, hc, if_pos rfl, List.append_nil, List.reverse_reverse]
  simp [hne]

theorem splitWordsAux_line {tokens : List (List Char)}
    (h : ∀ token ∈ tokens, token ≠ [] ∧ ∀ c ∈ token, isBlank c = false) (cs : List Char) :
    splitWordsAux [] ([' '].intercalate tokens ++ '\n' :: cs) = tokens ++ splitWordsAux [] cs := by
  induction tokens with
  | nil => rfl
  | cons token tokens ih =>
    obtain ⟨⟨hne, htoken⟩, htokens⟩ := List.forall_mem_cons.mp h
    cases tokens with
    | nil =>
      rw [List.intercalate_singleton, splitWordsAux_word hne htoken (by decide)]
      rfl
    | cons next tokens =>
      rw [Regex.intercalate_space, List.append_assoc, List.cons_append,
        splitWordsAux_word hne htoken (by decide), ih htokens]
      rfl

end Text

theorem mem_intercalate {α : Type} {a : α} {sep : List α} {parts : List (List α)}
    (h : a ∈ sep.intercalate parts) : a ∈ sep ∨ ∃ part ∈ parts, a ∈ part := by
  induction parts with
  | nil => cases h
  | cons part parts ih =>
    cases parts with
    | nil =>
      rw [List.intercalate_singleton] at h
      exact .inr ⟨part, List.mem_singleton_self part, h⟩
    | cons next parts =>
      rw [List.intercalate_cons_cons, List.append_assoc, List.mem_append, List.mem_append] at h
      obtain h | h | h := h
      · exact .inr ⟨part, List.mem_cons_self, h⟩
      · exact .inl h
      · exact (ih h).imp_right fun ⟨part, hp, ha⟩ ↦ ⟨part, List.mem_cons_of_mem _ hp, ha⟩

namespace Tokenizer

variable {t : Tokenizer} {tokens : List String} {lines : List (List String)}

theorem isToken_of_mem_tokenizeLine (ht : t.regex.Separates) {line : List Char} {token : String}
    (h : token ∈ t.tokenizeLine line) : t.regex.IsToken token.toList := by
  unfold tokenizeLine at h
  obtain ⟨hm, hany⟩ := List.mem_filter.mp h
  obtain ⟨span, hspan, rfl⟩ := List.mem_map.mp hm
  obtain ⟨hstart, hhead⟩ := Regex.isFirst_table.mp (Regex.EndTable.isFirst_of_mem_findAll hspan)
  rw [Regex.Span.text, String.toList_ofList] at hany ⊢
  exact ht.isToken_of_head? hstart hhead hany

theorem isToken_of_mem_tokenize (ht : t.regex.Separates) {source : String} :
    ∀ line ∈ t.tokenize source, ∀ token ∈ line, t.regex.IsToken token.toList := by
  intro line hline token htoken
  obtain ⟨chars, -, rfl⟩ := List.mem_map.mp hline
  exact isToken_of_mem_tokenizeLine ht htoken

theorem toList_intercalate_space (tokens : List String) :
    (" ".intercalate tokens).toList = [' '].intercalate (tokens.map String.toList) :=
  String.toList_intercalate

theorem tokenizeLine_intercalate (ht : t.regex.Separates)
    (h : ∀ token ∈ tokens, t.regex.IsToken token.toList) :
    t.tokenizeLine (" ".intercalate tokens).toList = tokens := by
  have hchars : ∀ token ∈ tokens.map String.toList, t.regex.IsToken token :=
    List.forall_mem_map.mpr h
  have hfilter := Regex.filter_text_lineSpans [] hchars
  rw [List.map_map] at hfilter
  rw [tokenizeLine, toList_intercalate_space, ht.findAll_line hchars]
  refine hfilter.trans ?_
  simp [Function.comp_def]

theorem unmatchedInLine_intercalate (ht : t.regex.Separates) (number : Nat)
    (h : ∀ token ∈ tokens, t.regex.IsToken token.toList) :
    t.unmatchedInLine number (" ".intercalate tokens).toList = [] := by
  have hchars : ∀ token ∈ tokens.map String.toList, t.regex.IsToken token :=
    List.forall_mem_map.mpr h
  have hgaps := Regex.gaps_lineSpans 0 (tokens.map String.toList)
  rw [Nat.zero_add] at hgaps
  rw [unmatchedInLine, toList_intercalate_space, ht.findAll_line hchars, List.size_toArray,
    List.flatMap_eq_nil_iff]
  intro gap hgap
  rw [hgaps gap hgap, Nat.sub_self]
  rfl

theorem not_lineBreak_of_mem_intercalate (h : ∀ token ∈ tokens, t.regex.IsToken token.toList) :
    ∀ c ∈ (" ".intercalate tokens).toList, c ≠ '\n' ∧ c ≠ '\r' := by
  intro c hc
  have hc' : c = ' ' ∨ isBlank c = false := by
    rw [toList_intercalate_space] at hc
    obtain hc | ⟨part, hpart, hc⟩ := mem_intercalate hc
    · exact .inl (List.mem_singleton.mp hc)
    · obtain ⟨token, htoken, rfl⟩ := List.mem_map.mp hpart
      exact .inr ((h token htoken).not_isBlank c hc)
  constructor
  · rintro rfl
    exact absurd hc' (by decide)
  · rintro rfl
    exact absurd hc' (by decide)

theorem splitLines_renderTokenLines
    (h : ∀ line ∈ lines, ∀ token ∈ line, t.regex.IsToken token.toList) :
    Text.splitLines (renderTokenLines lines).toList =
      lines.map fun line ↦ (" ".intercalate line).toList := by
  rw [renderTokenLines, Text.splitLines_unlines, List.map_map]
  · rfl
  · intro line hline
    obtain ⟨tokens, htokens, rfl⟩ := List.mem_map.mp hline
    exact not_lineBreak_of_mem_intercalate (h tokens htokens)

theorem tokenize_renderTokenLines (ht : t.regex.Separates)
    (h : ∀ line ∈ lines, ∀ token ∈ line, t.regex.IsToken token.toList) :
    t.tokenize (renderTokenLines lines) = lines := by
  rw [tokenize, splitLines_renderTokenLines h, List.map_map]
  refine (List.map_congr_left fun line hline ↦ ?_).trans (List.map_id lines)
  exact tokenizeLine_intercalate ht (h line hline)

theorem unmatched_renderTokenLines (ht : t.regex.Separates)
    (h : ∀ line ∈ lines, ∀ token ∈ line, t.regex.IsToken token.toList) :
    t.unmatched (renderTokenLines lines) = [] := by
  rw [unmatched, splitLines_renderTokenLines h, List.flatten_eq_nil_iff]
  intro errors herrors
  obtain ⟨i, hi, rfl⟩ := List.mem_mapIdx.mp herrors
  rw [List.length_map] at hi
  rw [List.getElem_map]
  exact unmatchedInLine_intercalate ht _ (h _ (List.getElem_mem hi))

theorem words_renderTokenLines
    (h : ∀ line ∈ lines, ∀ token ∈ line, t.regex.IsToken token.toList) :
    Text.words (renderTokenLines lines) = lines.flatten := by
  have hwords : Text.splitWordsAux [] (renderTokenLines lines).toList =
      lines.flatten.map String.toList := by
    rw [renderTokenLines, Text.toList_unlines, List.flatMap_map]
    induction lines with
    | nil => rfl
    | cons line lines ih =>
      obtain ⟨hline, hlines⟩ := List.forall_mem_cons.mp h
      rw [List.flatMap_cons, toList_intercalate_space, List.append_assoc, List.singleton_append,
        Text.splitWordsAux_line (List.forall_mem_map.mpr fun token htoken ↦
          ⟨(hline token htoken).ne_nil, (hline token htoken).not_isBlank⟩), ih hlines,
        List.flatten_cons, List.map_append]
  rw [Text.words, hwords, List.map_map]
  simp [Function.comp_def]

end Tokenizer

namespace Unicode

def blankCodes : List Nat :=
  whiteSpace.ranges.flatMap fun range ↦ List.range' range.1 (range.2 + 1 - range.1)

theorem mem_of_find? {ranges : List (Nat × Nat)} {n : Nat} {range : Nat × Nat}
    (h : RangeTable.find? ranges n = some range) :
    range ∈ ranges ∧ range.1 ≤ n ∧ n ≤ range.2 := by
  induction ranges with
  | nil => cases h
  | cons first ranges ih =>
    rw [RangeTable.find?] at h
    split at h
    · cases h
    · split at h
      · cases h
        exact ⟨List.mem_cons_self, by omega, by assumption⟩
      · exact (ih h).imp_left (List.mem_cons_of_mem _)

theorem toNat_mem_blankCodes {c : Char} (h : isBlank c = true) : c.toNat ∈ blankCodes := by
  have hnone : RangeTable.find? whiteSpace.alternating c.toNat = none := rfl
  rw [isBlank, RangeTable.contains, hnone, Option.any_none, Bool.or_false] at h
  obtain ⟨range, hrange⟩ := Option.isSome_iff_exists.mp h
  obtain ⟨hm, hlow, hhigh⟩ := mem_of_find? hrange
  refine List.mem_flatMap.mpr ⟨range, hm, List.mem_range'_1.mpr ⟨hlow, ?_⟩⟩
  omega

end Unicode

namespace Regex

def blankFree (cs : CharSet) : Bool :=
  Unicode.blankCodes.all fun n ↦ !cs.contains (Char.ofNat n)

theorem not_isBlank_of_blankFree {cs : CharSet} (h : blankFree cs = true) {c : Char}
    (hc : cs.contains c = true) : isBlank c = false := by
  refine Bool.eq_false_iff.mpr fun hblank ↦ ?_
  have hn := List.all_eq_true.mp h _ (Unicode.toNat_mem_blankCodes hblank)
  rw [Char.ofNat_toNat, hc] at hn
  cases hn

theorem parts_of_sets {r : Regex} (h : r.sets.all blankFree = true) : r.Parts := by
  intro s i e he
  refine .inl (reads_of_mem_ends (fun cs hcs c hc ↦ ?_) he)
  rw [not_isBlank_of_blankFree (List.all_eq_true.mp h cs hcs) hc, Bool.not_false]

def anyBlank : Regex :=
  .set (.property .blank)

theorem parts_anyBlank : anyBlank.Parts := by
  intro s i e he
  rw [anyBlank, ends] at he
  split at he
  · next hblank => exact .inr ⟨List.mem_singleton.mp he, hblank⟩
  · cases he

theorem separates_foldr {parts : List Regex} (hlook : parts.all lookFree = true)
    (hconsumes : parts.all consumes = true)
    (hparts : parts.all (·.sets.all blankFree) = true) :
    (parts.foldr .alt anyBlank).Separates := by
  induction parts with
  | nil =>
    refine ⟨rfl, rfl, parts_anyBlank, fun s i hs ↦ ?_⟩
    have hblank : s[i]?.any (CharSet.property .blank).contains = true := by
      rw [hs]
      decide
    rw [List.foldr_nil, anyBlank, ends, if_pos hblank]
    exact List.mem_singleton_self _
  | cons part parts ih =>
    rw [List.all_cons, Bool.and_eq_true] at hlook hconsumes hparts
    obtain ⟨hl, hc, hp, hs⟩ := ih hlook.2 hconsumes.2 hparts.2
    refine ⟨?_, ?_, (parts_of_sets hparts.1).alt hp, fun s i hspace ↦ ?_⟩
    · rw [List.foldr_cons, lookFree, hlook.1, hl, Bool.and_self]
    · rw [List.foldr_cons, consumes, hconsumes.1, hc, Bool.and_self]
    · rw [List.foldr_cons, ends, List.mem_eraseDups, List.mem_append]
      exact .inr (hs s i hspace)

end Regex

namespace Tokenizer

open Regex

def digits : Regex :=
  .repetition (.set (.property .digit)) ⟨1, none, true⟩

def dot : Regex :=
  .set (.single '.')

def members (ranges : List (Char × Char)) : CharSet :=
  ranges.foldl (fun set range ↦ .union set (.range range.1 range.2)) .empty

def identifier : Regex :=
  .seq (.set (members [('a', 'z'), ('A', 'Z'), ('_', '_')]))
    (.repetition (.set (members [('a', 'z'), ('A', 'Z'), ('0', '9'), ('_', '_')])) ⟨0, none, true⟩)

def signs : CharSet :=
  members (",.;:()\x7b\x7d[]+-*/=<>!?#%&|@^~".toList.map fun c ↦ (c, c))

def standardParts : List Regex :=
  [.seq digits (.seq dot identifier), .seq digits identifier,
    .seq digits (.repetition (.seq dot digits) ⟨2, none, true⟩), .seq digits (.seq dot digits),
    .seq digits dot, identifier, digits, .set (members [('"', '"')]), .set signs]

theorem standard_eq :
    standard = .ok ⟨standardPatterns, standardParts.foldr .alt anyBlank⟩ := by
  decide +kernel

theorem exists_standard : ∃ t, standard = .ok t ∧ t.regex.Separates :=
  ⟨_, standard_eq, separates_foldr (by decide) (by decide) (by decide +kernel)⟩

end Tokenizer

def Tokenizer.printed (t : Tokenizer) (source : String) : String :=
  renderTokenLines (t.tokenize source)

namespace CommandLine

variable {t : Tokenizer} {files : Files} {path source : String}
  (ht : Tokenizer.standard = .ok t) (h : files path = .ok source)
include ht h

theorem inputTokens_of_file : inputTokens files (some path) none = .ok (t.tokenizeFlat source) := by
  have hread : readFile files path = .ok source := by
    rw [readFile, h]
  have hstandard : standardTokenizer = .ok t := by
    rw [standardTokenizer, ht]
  rw [inputTokens, hread, hstandard]
  rfl

theorem output_runTokenize : (runTokenize files path []).output = t.printed source := by
  have hread : readFile files path = .ok source := by
    rw [readFile, h]
  rw [runTokenize, hread, List.isEmpty_nil, if_pos rfl, ht]
  rfl

end CommandLine

open TopDown.Tokenizer TopDown.CommandLine

/--
What is printed for a text holds the tokens of the text and nothing else, whether it is cut into
tokens again, as a file or not, or into words.
-/
theorem standard_tokens_printed : ∃ t, Tokenizer.standard = .ok t ∧ ∀ source : String,
    t.tokenize (t.printed source) = t.tokenize source ∧
    t.unmatched (t.printed source) = [] ∧
    Text.words (t.printed source) = t.tokenizeFlat source ∧
    ∀ (files files' : Files) (path path' : String), files path = .ok source →
      files' path' = .ok (t.printed source) →
      (runTokenize files path []).output = t.printed source ∧
      inputTokens files' (some path') none = inputTokens files (some path) none ∧
      inputTokens files none (some (t.printed source)) = inputTokens files (some path) none := by
  obtain ⟨t, hstandard, hsep⟩ := exists_standard
  refine ⟨t, hstandard, fun source ↦ ?_⟩
  have htokens : ∀ line ∈ t.tokenize source, ∀ token ∈ line, t.regex.IsToken token.toList :=
    isToken_of_mem_tokenize hsep
  have hlines : t.tokenize (t.printed source) = t.tokenize source :=
    tokenize_renderTokenLines hsep htokens
  have hwords : Text.words (t.printed source) = t.tokenizeFlat source :=
    words_renderTokenLines htokens
  refine ⟨hlines, unmatched_renderTokenLines hsep htokens, hwords, ?_⟩
  intro files files' path path' hfile hfile'
  have hinput := inputTokens_of_file hstandard hfile
  refine ⟨output_runTokenize hstandard hfile, ?_, ?_⟩
  · rw [hinput, inputTokens_of_file hstandard hfile', tokenizeFlat, hlines]
    rfl
  · rw [hinput, inputTokens, hwords]

/-- Numbers that run into one another, and a character that no pattern covers. -/
theorem standard_tokens_printed_numbers : ∃ t, Tokenizer.standard = .ok t ∧
    let source := "1.2.3.x\t4.y §5"
    let text := "1.2.3 . x 4.y 5\n"
    t.tokenize source = [["1.2.3", ".", "x", "4.y", "5"]] ∧
    t.tokenize text = t.tokenize source ∧ t.unmatched text = [] ∧
    (runTokenize (fun _ ↦ .ok source) "source" []).output = text ∧
    inputTokens (fun _ ↦ .ok text) (some "text") none =
      inputTokens (fun _ ↦ .ok source) (some "source") none ∧
    inputTokens (fun _ ↦ .ok text) none (some text) =
      inputTokens (fun _ ↦ .ok source) (some "source") none := by
  obtain ⟨t, hstandard, h⟩ := standard_tokens_printed
  refine ⟨t, hstandard, ?_⟩
  intro source text
  have hlines : t.tokenize source = [["1.2.3", ".", "x", "4.y", "5"]] := by
    rw [standard_eq] at hstandard
    cases hstandard
    decide +kernel
  have htext : t.printed source = text := by
    rw [printed, hlines]
    decide
  obtain ⟨hfix, hunmatched, -, hfiles⟩ := h source
  rw [htext] at hfix hunmatched hfiles
  obtain ⟨houtput, hfile, hwords⟩ :=
    hfiles (fun _ ↦ .ok source) (fun _ ↦ .ok text) "source" "text" rfl rfl
  exact ⟨hlines, hfix, hunmatched, houtput, hfile, hwords⟩

end TopDown
