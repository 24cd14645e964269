import TopDown.Proofs.PlainText
import TopDown.Proofs.PreferredEnd
import TopDown.Proofs.TokenText

namespace TopDown

open Unicode (isBlank)

namespace Tokenizer

open TopDown.Regex

variable {s : Text} {cs ds es : List Char} {c : Char} {r : Regex} {i e : Nat}
  {ranges : List (Char × Char)}

theorem contains_members_iff :
    (members ranges).contains c = true ↔ ∃ range ∈ ranges, range.1 ≤ c ∧ c ≤ range.2 := by
  have hfold (set : CharSet) :
      (ranges.foldl (fun set range ↦ .union set (.range range.1 range.2)) set).contains c = true ↔
        set.contains c = true ∨ ∃ range ∈ ranges, range.1 ≤ c ∧ c ≤ range.2 := by
    induction ranges generalizing set with
    | nil => simp
    | cons range ranges ih => simp [ih, CharSet.contains, or_assoc]
  rw [members, hfold]
  simp [CharSet.contains]

def letter : CharSet :=
  members [('a', 'z'), ('A', 'Z'), ('_', '_')]

def wordChar : CharSet :=
  members [('a', 'z'), ('A', 'Z'), ('0', '9'), ('_', '_')]

def digit : CharSet :=
  .property .digit

theorem wordChar_of_members (h : ranges ⊆ [('a', 'z'), ('A', 'Z'), ('0', '9'), ('_', '_')])
    (c : Char) (hc : (members ranges).contains c = true) : wordChar.contains c = true := by
  obtain ⟨range, hrange, hc⟩ := contains_members_iff.mp hc
  exact contains_members_iff.mpr ⟨range, h hrange, hc⟩

theorem wordChar_of_letter (h : letter.contains c = true) : wordChar.contains c = true :=
  wordChar_of_members (by decide) c h

theorem toNat_lt_of_wordChar (h : wordChar.contains c = true) : c.toNat < 128 := by
  obtain ⟨range, hrange, -, hle⟩ := contains_members_iff.mp h
  have hascii : ([('a', 'z'), ('A', 'Z'), ('0', '9'), ('_', '_')].all fun range ↦
      decide (range.2.toNat < 128)) = true := by decide
  exact Nat.lt_of_le_of_lt hle (of_decide_eq_true (List.all_eq_true.mp hascii range hrange))

theorem of_wordChar {p : Char → Bool}
    (hp : ∀ n < 128, wordChar.contains (Char.ofNat n) = true → p (Char.ofNat n) = true)
    (h : wordChar.contains c = true) : p c = true := by
  have hc := hp c.toNat (toNat_lt_of_wordChar h)
  rw [Char.ofNat_toNat] at hc
  exact hc h

theorem digit_eq_not_letter (h : wordChar.contains c = true) :
    digit.contains c = !letter.contains c := by
  apply beq_iff_eq.mp
  exact of_wordChar (p := fun c ↦ digit.contains c == !letter.contains c) (by decide +kernel) h

theorem not_digit_of_letter (h : letter.contains c = true) : digit.contains c = false := by
  rw [digit_eq_not_letter (wordChar_of_letter h), h, Bool.not_true]

theorem not_letter_of_digit (h : digit.contains c = true) : letter.contains c = false := by
  apply Bool.eq_false_iff.mpr
  intro hl
  rw [not_digit_of_letter hl] at h
  cases h

theorem ne_dot_of_wordChar (h : wordChar.contains c = true) : c ≠ '.' := by
  rintro rfl
  exact absurd h (by decide)

theorem ne_dot_of_digit (h : digit.contains c = true) : c ≠ '.' := by
  rintro rfl
  exact absurd h (by decide)

theorem not_isBlank_of_wordChar (h : wordChar.contains c = true) : isBlank c = false :=
  not_isBlank_of_blankFree (by decide +kernel) h

theorem not_isBlank_of_digit (h : digit.contains c = true) : isBlank c = false :=
  not_isBlank_of_blankFree (by decide +kernel) h

structure Numeral (ds : List Char) : Prop where
  ne_nil : ds ≠ []
  forall_digit : ∀ c ∈ ds, digit.contains c = true

/-- Texts that the standard patterns take whole. -/
inductive Lexeme : List Char → Prop
  | word {c : Char} {cs : List Char} (hc : letter.contains c = true)
    (hcs : ∀ c ∈ cs, wordChar.contains c = true) : Lexeme (c :: cs)
  | number {ds : List Char} (hds : Numeral ds) : Lexeme ds
  | numberWord {c : Char} {ds cs : List Char} (hds : Numeral ds) (hc : letter.contains c = true)
    (hcs : ∀ c ∈ cs, wordChar.contains c = true) : Lexeme (ds ++ c :: cs)
  | decimal {ds es : List Char} (hds : Numeral ds) (hes : Numeral es) : Lexeme (ds ++ '.' :: es)

theorem Lexeme.ne_nil (h : Lexeme cs) : cs ≠ [] := by
  cases h with
  | word | numberWord | decimal => simp
  | number hds => exact hds.ne_nil

theorem Lexeme.not_isBlank (h : Lexeme cs) : ∀ c ∈ cs, isBlank c = false := by
  have hword {cs : List Char} {c : Char} (hc : letter.contains c = true)
      (hcs : ∀ c ∈ cs, wordChar.contains c = true) : ∀ d ∈ c :: cs, isBlank d = false := by
    intro d hd
    obtain rfl | hd := List.mem_cons.mp hd
    · exact not_isBlank_of_wordChar (wordChar_of_letter hc)
    · exact not_isBlank_of_wordChar (hcs d hd)
  have hnumber {ds : List Char} (hds : Numeral ds) : ∀ d ∈ ds, isBlank d = false :=
    fun d hd ↦ not_isBlank_of_digit (hds.forall_digit d hd)
  cases h with
  | word hc hcs => exact hword hc hcs
  | number hds => exact hnumber hds
  | numberWord hds hc hcs => exact List.forall_mem_append.mpr ⟨hnumber hds, hword hc hcs⟩
  | decimal hds hes =>
    exact List.forall_mem_append.mpr
      ⟨hnumber hds, List.forall_mem_cons.mpr ⟨by decide, hnumber hes⟩⟩

theorem lexeme_of_wordChars (hne : cs ≠ []) (h : ∀ c ∈ cs, wordChar.contains c = true) :
    Lexeme cs := by
  have hsplit := List.takeWhile_append_dropWhile (p := digit.contains) (l := cs)
  have hdigits : ∀ c ∈ cs.takeWhile digit.contains, digit.contains c = true :=
    fun c hc ↦ List.mem_takeWhile_imp hc
  have hdrop := List.head?_dropWhile_not digit.contains cs
  generalize cs.takeWhile digit.contains = ds at hsplit hdigits
  generalize cs.dropWhile digit.contains = rest at hsplit hdrop
  subst hsplit
  obtain ⟨-, hrest⟩ := List.forall_mem_append.mp h
  cases rest with
  | nil =>
    rw [List.append_nil] at hne ⊢
    exact .number ⟨hne, hdigits⟩
  | cons c rest =>
    obtain ⟨hc, hrest⟩ := List.forall_mem_cons.mp hrest
    have hletter : letter.contains c = true := by
      have hd : digit.contains c = false := hdrop
      rwa [digit_eq_not_letter hc, Bool.not_eq_false'] at hd
    cases ds with
    | nil => exact .word hletter hrest
    | cons d ds => exact .numberWord ⟨List.cons_ne_nil d ds, hdigits⟩ hletter hrest

theorem Numeral.not_dot (hds : Numeral ds) {k : Nat} : ds[k]? ≠ some '.' :=
  fun hk ↦ ne_dot_of_digit (hds.forall_digit _ (List.mem_of_getElem? hk)) rfl

theorem Numeral.eq_length_of_dot (hds : Numeral ds) (hes : Numeral es) {k : Nat}
    (h : (ds ++ '.' :: es)[k]? = some '.') : k = ds.length := by
  by_contra hne
  obtain hlt | hlt := Nat.lt_or_gt_of_ne hne
  · rw [List.getElem?_append_left hlt] at h
    exact hds.not_dot h
  · obtain ⟨n, rfl⟩ := Nat.exists_eq_add_of_lt hlt
    have hn : ds.length + n + 1 - ds.length = n + 1 := by omega
    rw [List.getElem?_append_right (by omega), hn, List.getElem?_cons_succ] at h
    exact hes.not_dot h

def standardRegex : Regex :=
  standardParts.foldr .alt anyBlank

theorem isToken_of_parts (before : List Regex) {after : List Regex}
    (hparts : standardParts = before ++ r :: after) (hcs : Lexeme cs)
    (hbefore : ∀ q ∈ before, ends cs.toArray q 0 = []) (hr : r.Prefers cs.toArray 0 cs.length) :
    standardRegex.IsToken cs := by
  refine ⟨hcs.ne_nil, hcs.not_isBlank, ?_⟩
  rw [standardRegex, hparts, head?_ends_foldr_alt, List.append_assoc, List.cons_append]
  exact prefers_alternatives hbefore hr _

theorem prefers_identifier (before : List Char) (hc : letter.contains c = true)
    (hcs : ∀ c ∈ cs, wordChar.contains c = true) :
    identifier.Prefers (before ++ c :: cs).toArray before.length (before ++ c :: cs).length := by
  have hrun := runsTo_end (before ++ [c]) hcs
  rw [List.append_assoc, List.singleton_append, List.length_append] at hrun
  exact (prefers_set_append before hc cs).seq (hrun.prefers_manyOrNone (by simp))

theorem Numeral.prefers_digits (hds : Numeral ds) (before after : List Char)
    (hafter : after.head?.any digit.contains = false) :
    digits.Prefers (before ++ ds ++ after).toArray before.length (before ++ ds).length := by
  have hpos := List.length_pos_of_ne_nil hds.ne_nil
  exact (runsTo_append before hds.forall_digit after hafter).prefers_many (by simpa) (by simp)

theorem absent_dot (h : ∀ c ∈ cs, c ≠ '.') : dot.Absent cs.toArray := by
  apply absent_set
  intro c hc
  rw [Bool.eq_false_iff, ne_eq, contains_single_iff]
  exact h c hc

theorem absent_identifier (h : ∀ c ∈ cs, letter.contains c = false) :
    identifier.Absent cs.toArray :=
  (absent_set h).seq_left _

theorem isToken_word (hc : letter.contains c = true) (hcs : ∀ c ∈ cs, wordChar.contains c = true) :
    standardRegex.IsToken (c :: cs) := by
  have hfirst : ends (c :: cs).toArray digits 0 = [] := by
    apply ends_repetition_eq_nil
    exact ends_set_eq_nil (not_digit_of_letter hc)
  refine isToken_of_parts (standardParts.take 5) rfl (.word hc hcs) ?_
    (prefers_identifier [] hc hcs)
  -- The patterns before the one for words begin with digits.
  simp only [standardParts, List.take_succ_cons, List.take_zero, List.forall_mem_cons]
  exact ⟨ends_seq_eq_nil hfirst, ends_seq_eq_nil hfirst, ends_seq_eq_nil hfirst,
    ends_seq_eq_nil hfirst, ends_seq_eq_nil hfirst, nofun⟩

theorem Numeral.isToken (hds : Numeral ds) : standardRegex.IsToken ds := by
  have hdot := absent_dot fun c hc ↦ ne_dot_of_digit (hds.forall_digit c hc)
  have hword := absent_identifier fun c hc ↦ not_letter_of_digit (hds.forall_digit c hc)
  have hr := hds.prefers_digits [] [] rfl
  rw [List.nil_append, List.append_nil] at hr
  refine isToken_of_parts (standardParts.take 6) rfl (.number hds) ?_ hr
  -- Each of the patterns before needs a dot or a letter.
  simp only [standardParts, List.take_succ_cons, List.take_zero, List.forall_mem_cons]
  exact ⟨(hdot.seq_left _).seq_right _ 0, hword.seq_right _ 0,
    ((hdot.seq_left _).repetition 1).seq_right _ 0, (hdot.seq_left _).seq_right _ 0,
    hdot.seq_right _ 0, hword 0, nofun⟩

theorem isToken_numberWord (hds : Numeral ds) (hc : letter.contains c = true)
    (hcs : ∀ c ∈ cs, wordChar.contains c = true) : standardRegex.IsToken (ds ++ c :: cs) := by
  have hdot : dot.Absent (ds ++ c :: cs).toArray := by
    apply absent_dot
    refine List.forall_mem_append.mpr ⟨fun c hc ↦ ne_dot_of_digit (hds.forall_digit c hc), ?_⟩
    exact List.forall_mem_cons.mpr ⟨ne_dot_of_wordChar (wordChar_of_letter hc),
      fun c hc ↦ ne_dot_of_wordChar (hcs c hc)⟩
  have hdigits := hds.prefers_digits [] (c :: cs) (not_digit_of_letter hc)
  refine isToken_of_parts (standardParts.take 1) rfl (.numberWord hds hc hcs) ?_
    (hdigits.seq (prefers_identifier ds hc hcs))
  simp only [standardParts, List.take_succ_cons, List.take_zero, List.forall_mem_cons]
  exact ⟨(hdot.seq_left _).seq_right _ 0, nofun⟩

theorem getElem?_of_matches_dot (h : (seq dot r).Matches s i e) : s[i]? = some '.' ∧ i < e := by
  obtain ⟨j, hj, he⟩ := h
  obtain ⟨hdot, rfl⟩ := matches_single_iff.mp hj
  exact ⟨hdot, he.le⟩

theorem ends_dots_eq_nil {greedy : Bool} (hi : i ≤ s.size)
    (h : ∀ j k : Nat, s[j]? = some '.' → s[k]? = some '.' → j = k) :
    ends s (.seq r (.repetition (.seq dot digits) ⟨2, none, greedy⟩)) i = [] := by
  apply List.eq_nil_iff_forall_not_mem.mpr
  intro e he
  obtain ⟨j, -, n, ⟨hn, -⟩, hrounds⟩ := (mem_ends_iff hi).mp he
  obtain ⟨n, rfl⟩ : ∃ m, n = m + 2 := Nat.exists_eq_add_of_le' hn
  obtain ⟨k, hfirst, m, hsecond, -⟩ := hrounds
  obtain ⟨hj, hlt⟩ := getElem?_of_matches_dot hfirst
  obtain ⟨hk, -⟩ := getElem?_of_matches_dot hsecond
  exact Nat.ne_of_lt hlt (h j k hj hk)

theorem isToken_decimal (hds : Numeral ds) (hes : Numeral es) :
    standardRegex.IsToken (ds ++ '.' :: es) := by
  have hword : identifier.Absent (ds ++ '.' :: es).toArray := by
    apply absent_identifier
    refine List.forall_mem_append.mpr ⟨fun c hc ↦ not_letter_of_digit (hds.forall_digit c hc), ?_⟩
    refine List.forall_mem_cons.mpr ⟨by decide, fun c hc ↦ ?_⟩
    exact not_letter_of_digit (hes.forall_digit c hc)
  have hnext : digit.contains '.' = false := by decide
  have hdigits := hds.prefers_digits [] ('.' :: es) hnext
  have hmore := hes.prefers_digits (ds ++ ['.']) [] rfl
  rw [List.append_nil, List.append_assoc, List.singleton_append, List.length_append] at hmore
  refine isToken_of_parts (standardParts.take 3) rfl (.decimal hds hes) ?_
    (hdigits.seq ((prefers_set_append ds (by decide) es).seq hmore))
  simp only [standardParts, List.take_succ_cons, List.take_zero, List.forall_mem_cons]
  -- Two of the patterns before need a letter, and the third one a second dot.
  refine ⟨(hword.seq_right _).seq_right _ 0, hword.seq_right _ 0, ?_, nofun⟩
  apply ends_dots_eq_nil (Nat.zero_le _)
  intro j k hj hk
  rw [List.getElem?_toArray] at hj hk
  rw [hds.eq_length_of_dot hes hj, hds.eq_length_of_dot hes hk]

theorem Lexeme.isToken (h : Lexeme cs) : standardRegex.IsToken cs := by
  cases h with
  | word hc hcs => exact isToken_word hc hcs
  | number hds => exact hds.isToken
  | numberWord hds hc hcs => exact isToken_numberWord hds hc hcs
  | decimal hds hes => exact isToken_decimal hds hes

theorem forall_mem_of_reads {p : Char → Bool} (h : Reads p cs.toArray i e) :
    ∀ c ∈ (cs.drop i).take (e - i), p c = true := by
  intro c hc
  obtain ⟨k, hk, rfl⟩ := List.mem_iff_getElem.mp hc
  rw [List.length_take, List.length_drop] at hk
  have hp := h.2 (i + k) (Nat.le_add_right i k) (by omega)
  rw [List.getElem?_toArray, List.getElem?_eq_getElem (by omega), Option.any_some] at hp
  rwa [List.getElem_take, List.getElem_drop]

theorem lexeme_of_matchesWhole (hr : r.consumes = true)
    (hsets : ∀ set ∈ r.sets, ∀ c, set.contains c = true → wordChar.contains c = true)
    (h : r.MatchesWhole cs.toArray) : Lexeme cs := by
  have hmem : cs.toArray.size ∈ ends cs.toArray r 0 := (mem_ends_iff (Nat.zero_le _)).mpr h
  have hpos := lt_of_mem_ends hr hmem
  have hall := forall_mem_of_reads (reads_of_mem_ends hsets hmem)
  rw [List.drop_zero, Nat.sub_zero, List.size_toArray, List.take_length] at hall
  exact lexeme_of_wordChars (List.ne_nil_of_length_pos hpos) hall

def figure : CharSet :=
  members [('0', '9')]

theorem digit_of_figure (h : figure.contains c = true) : digit.contains c = true := by
  have hc := of_wordChar (p := fun c ↦ !figure.contains c || digit.contains c) (by decide +kernel)
    (wordChar_of_members (by decide) c h)
  rwa [h, Bool.not_true, Bool.false_or] at hc

theorem numeral_of_matches (hi : i ≤ cs.length) (h : (many figure).Matches cs.toArray i e) :
    Numeral ((cs.drop i).take (e - i)) := by
  have hmem : e ∈ ends cs.toArray (many figure) i := (mem_ends_iff hi).mpr h
  have hlt : i < e := lt_of_mem_ends (by decide) hmem
  have hle : e ≤ cs.length := h.le_size hi
  constructor
  · apply List.ne_nil_of_length_pos
    rw [List.length_take, List.length_drop]
    omega
  · have hsets : ∀ set ∈ (many figure).sets, ∀ c,
        set.contains c = true → digit.contains c = true :=
      List.forall_mem_singleton.mpr fun c ↦ digit_of_figure
    exact forall_mem_of_reads (reads_of_mem_ends hsets hmem)

theorem lexeme_of_decimal
    (h : (seq (many figure) (seq dot (many figure))).MatchesWhole cs.toArray) : Lexeme cs := by
  obtain ⟨j, hds, k, hdot, hes⟩ := h
  obtain ⟨hj, rfl⟩ := matches_single_iff.mp hdot
  rw [List.getElem?_toArray] at hj
  obtain ⟨hlt, hj⟩ := List.getElem?_eq_some_iff.mp hj
  have hds := numeral_of_matches (Nat.zero_le _) hds
  have hes := numeral_of_matches hlt hes
  rw [List.size_toArray, List.take_of_length_le (by simp)] at hes
  have hcs : cs.take j ++ '.' :: cs.drop (j + 1) = cs := by
    rw [← hj, ← List.drop_eq_getElem_cons hlt, List.take_append_drop]
  rw [← hcs]
  exact .decimal hds hes

end Tokenizer

end TopDown
