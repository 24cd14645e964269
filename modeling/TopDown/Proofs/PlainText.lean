import TopDown.Proofs.PatternAnchors

namespace TopDown

namespace Regex

variable {s : Text} {cs : List Char} {c : Char} {i e : Nat}

theorem contains_single_iff {d : Char} : (CharSet.single c).contains d = true ↔ d = c := by
  simp only [CharSet.single, CharSet.contains, Bool.and_eq_true, decide_eq_true_eq]
  constructor
  · intro h
    exact Char.le_antisymm h.2 h.1
  · intro h
    subst h
    exact ⟨Char.le_refl d, Char.le_refl d⟩

theorem matches_single_iff :
    (set (.single c)).Matches s i e ↔ s[i]? = some c ∧ i + 1 = e := by
  have hany : s[i]?.any (CharSet.single c).contains = true ↔ s[i]? = some c := by
    cases s[i]? with
    | none => simp
    | some d => rw [Option.any_some, contains_single_iff, Option.some.injEq]
  rw [Matches, hany]

theorem matches_literal_iff :
    (literal cs).Matches s i e ↔ cs <+: s.toList.drop i ∧ i + cs.length = e := by
  induction cs generalizing i with
  | nil => simp [literal, Matches]
  | cons c cs ih =>
    have hunfold : (literal (c :: cs)).Matches s i e ↔
        ∃ j, (set (.single c)).Matches s i j ∧ (literal cs).Matches s j e := Iff.rfl
    rw [hunfold]
    simp only [matches_single_iff, ih, List.length_cons]
    constructor
    · intro h
      obtain ⟨j, ⟨hc, hj⟩, hcs, he⟩ := h
      subst hj
      obtain ⟨hi, rfl⟩ := Array.getElem?_eq_some_iff.mp hc
      have hdrop : s.toList.drop i = s[i] :: s.toList.drop (i + 1) :=
        List.drop_eq_getElem_cons (by simpa using hi)
      rw [hdrop, List.cons_prefix_cons]
      exact ⟨⟨rfl, hcs⟩, by omega⟩
    · intro h
      obtain ⟨hcs, he⟩ := h
      have hi : i < s.toList.length := by
        by_contra hle
        rw [List.drop_eq_nil_of_le (Nat.not_lt.mp hle)] at hcs
        cases List.prefix_nil.mp hcs
      rw [List.drop_eq_getElem_cons hi, List.cons_prefix_cons] at hcs
      refine ⟨i + 1, ⟨?_, rfl⟩, hcs.2, by omega⟩
      rw [hcs.1]
      exact Array.getElem?_eq_getElem hi

theorem matchesWhole_literal_iff : (literal cs).MatchesWhole s ↔ s.toList = cs := by
  rw [MatchesWhole, matches_literal_iff, List.drop_zero, Nat.zero_add]
  constructor
  · intro h
    obtain ⟨hcs, hlength⟩ := h
    exact (hcs.eq_of_length hlength).symm
  · rintro rfl
    exact ⟨List.prefix_rfl, rfl⟩

namespace Parser

variable {state : State}

def plainPiece (c : Char) : Piece :=
  .part ⟨.set (.single c), 0⟩

def State.addPlain (state : State) (cs : List Char) : State :=
  cs.foldl (fun state c ↦ state.add ⟨.set (.single c), 0⟩) state

theorem outer_addPlain (state : State) (cs : List Char) :
    (state.addPlain cs).outer = state.outer := by
  induction cs generalizing state with
  | nil => rfl
  | cons c cs ih => exact ih _

theorem step_plain (hc : c ∉ metacharacters) (hf : state.flags = {}) (rest : List Char) :
    step state c rest = .ok (state.add ⟨.set (.single c), 0⟩, rest) := by
  unfold step
  split
  case h_13 =>
    rw [addAtom, hf]
    rfl
  all_goals exact absurd (by decide) hc

theorem loop_plain (h : ∀ c ∈ cs, c ∉ metacharacters) (hf : state.flags = {}) (rest : List Char) :
    loop state (cs ++ rest) = loop (state.addPlain cs) rest := by
  induction cs generalizing state with
  | nil => rfl
  | cons c cs ih =>
    obtain ⟨hc, hcs⟩ := List.forall_mem_cons.mp h
    have hskip : skipBlanks state.flags (c :: cs ++ rest) = c :: (cs ++ rest) := by
      rw [hf]
      rfl
    exact (loop_step hskip (step_plain hc hf _) (Nat.lt_succ_self _)).trans (ih hcs hf)

theorem pieces_addPlain (state : State) (cs : List Char) : (state.addPlain cs).frame.pieces =
    (cs.map plainPiece).reverse ++ state.frame.pieces := by
  induction cs generalizing state with
  | nil => rfl
  | cons c cs ih =>
    rw [List.map_cons, List.reverse_cons, List.append_assoc]
    exact ih _

theorem branches_addPlain (state : State) (cs : List Char) :
    (state.addPlain cs).frame.branches = state.frame.branches := by
  induction cs generalizing state with
  | nil => rfl
  | cons c cs ih => exact ih _

theorem branch_of_pieces {frame : Frame}
    (h : frame.pieces = ((cs ++ [c]).map plainPiece).reverse) :
    frame.branch.value = cs.foldr (fun c r ↦ .seq (.set (.single c)) r) (.set (.single c)) := by
  have hparts : ((cs ++ [c]).map plainPiece).reverse.filterMap Piece.regex? =
      Regex.set (.single c) :: (cs.map fun c ↦ Regex.set (.single c)).reverse := by
    have hpiece : Piece.regex? ∘ plainPiece = some ∘ fun c ↦ Regex.set (.single c) := rfl
    rw [← List.map_reverse, List.filterMap_map, hpiece, List.filterMap_eq_map]
    simp
  unfold Frame.branch
  rw [h, hparts]
  simp [List.foldr_map]

theorem matches_branch_iff {frame : Frame}
    (h : frame.pieces = (cs.map plainPiece).reverse) :
    frame.branch.value.Matches s i e ↔ (literal cs).Matches s i e := by
  obtain rfl | ⟨cs, c, rfl⟩ := cs.eq_nil_or_concat'
  · unfold Frame.branch
    rw [h]
    rfl
  · rw [branch_of_pieces h]
    clear h
    induction cs generalizing i with
    | nil => simp [literal, Matches]
    | cons d cs ih => exact exists_congr fun j ↦ and_congr_right fun _ ↦ ih

theorem depth_close_addPlain (cs : List Char) : (State.addPlain {} cs).frame.close.depth ≤ 1 := by
  have hpieces := pieces_addPlain {} cs
  rw [List.append_nil] at hpieces
  rw [Frame.close, branches_addPlain]
  change rowDepth ((State.addPlain {} cs).frame.pieces.map Piece.depth) ≤ 1
  refine rowDepth_le fun d hd ↦ ?_
  rw [hpieces] at hd
  obtain ⟨piece, hpiece, rfl⟩ := List.mem_map.mp hd
  obtain ⟨c, -, rfl⟩ := List.mem_map.mp (List.mem_reverse.mp hpiece)
  exact Nat.le_refl 0

theorem not_endsInComment_of_plain (h : ∀ c ∈ cs, c ∉ metacharacters) (hf : state.flags = {}) :
    ¬ EndsInComment state cs := by
  induction cs generalizing state with
  | nil =>
    refine not_endsInComment_of_skipBlanks (skipBlanks_nil _) fun hin ↦ ?_
    rw [InComment, hf] at hin
    cases hin.1
  | cons c cs ih =>
    obtain ⟨hc, hcs⟩ := List.forall_mem_cons.mp h
    have hskip : skipBlanks state.flags (c :: cs) = c :: cs := by
      rw [hf]
      rfl
    rw [endsInComment_step_iff hskip (step_plain hc hf cs)]
    exact ih hcs hf

end Parser

open TopDown.Regex.Parser

variable {text : String}

theorem read_plain (h : ∀ c ∈ text.toList, c ∉ metacharacters) :
    read text = .ok (State.addPlain {} text.toList).frame.close := by
  have hl : loop {} (text.toList ++ []) = loop (State.addPlain {} text.toList) [] :=
    loop_plain h rfl []
  rw [List.append_nil, loop_nil] at hl
  exact read_eq_ok_iff.mpr ⟨_, hl, outer_addPlain {} _, rfl⟩

theorem exists_parse_plain (h : ∀ c ∈ text.toList, c ∉ metacharacters) :
    ∃ r, parse text = .ok r ∧ ∀ s i e, r.Matches s i e ↔ (literal text.toList).Matches s i e := by
  have hdepth := (depth_close_addPlain text.toList).trans (by decide : 1 ≤ nestLimit)
  refine ⟨_, parse_eq_ok_iff.mpr ⟨_, read_plain h, hdepth, rfl⟩, fun s i e ↦ ?_⟩
  have hpieces := pieces_addPlain {} text.toList
  rw [List.append_nil] at hpieces
  rw [Frame.close, branches_addPlain]
  exact matches_branch_iff hpieces

theorem anchorable_plain (h : ∀ c ∈ text.toList, c ∉ metacharacters) : Anchorable text where
  parses := (exists_parse_plain h).imp fun _ ↦ And.left
  shallow := ⟨_, read_plain h, (depth_close_addPlain _).trans (by decide)⟩
  closed := not_endsInComment_of_plain h rfl

end Regex

open TopDown.Regex

theorem looksLikePattern_plain {text : String} (h : ∀ c ∈ text.toList, c ∉ metacharacters) :
    looksLikePattern text = false := by
  have hany : text.toList.any metacharacters.contains = false := by
    rw [List.any_eq_false]
    intro c hc
    rw [List.contains_iff_mem]
    exact h c hc
  rw [looksLikePattern, hany, Bool.false_and]

namespace Pattern

theorem exists_ofSource_plain {text : String} (h : ∀ c ∈ text.toList, c ∉ metacharacters) :
    ∃ p, ofSource text = .ok p ∧ ∀ token, p.accepts token = true ↔ token = text := by
  obtain ⟨r, hr, hm⟩ := exists_parse_plain h
  have hopen : parse text ≠ .error .unopenedGroup := by
    rw [hr]
    exact nofun
  obtain ⟨p, hp⟩ := (exists_ofSource_iff hopen).mpr (anchorable_plain h)
  obtain ⟨r', hr', haccepts⟩ := acceptsWhole hopen hp
  cases hr.symm.trans hr'
  refine ⟨p, hp, fun token ↦ ?_⟩
  rw [haccepts, MatchesWhole, hm]
  exact matchesWhole_literal_iff.trans String.toList_inj

end Pattern

namespace GrammarBuilder

variable {b : GrammarBuilder} {text : String}

theorem classify_of_not_infersPattern (ht : b.infersPattern text = false)
    (hp : text ∉ b.patterns) : b.classify text = .ok (.literal text) := by
  have hcontains : b.patterns.contains text = false := by
    rw [Bool.eq_false_iff, ne_eq, List.contains_iff_mem]
    exact hp
  rw [classify, hcontains, ht]
  rfl

theorem classify_of_not_looksLikePattern (ht : looksLikePattern text = false)
    (hp : text ∉ b.patterns) : b.classify text = .ok (.literal text) :=
  classify_of_not_infersPattern (by rw [infersPattern, ht, Bool.and_false]) hp

end GrammarBuilder

/--
A text without metacharacters is a pattern that accepts the text and no other token. Where it has no
tag it is taken for a literal, also where patterns are inferred, and the literal accepts the same
tokens. So a terminal with such a text is the same to all tokens, however it was classified.
-/
theorem plain_text_accepts_itself {text : String} (h : ∀ c ∈ text.toList, c ∉ metacharacters) :
    ∃ p, Pattern.ofSource text = .ok p ∧ (∀ token, p.accepts token = true ↔ token = text) ∧
      looksLikePattern text = false ∧
      (∀ b : GrammarBuilder, text ∉ b.patterns →
        ∃ t, b.classify text = .ok t ∧ t.isPattern = false ∧
          ∀ token, t.accepts token = p.accepts token) ∧
      ∀ (b : GrammarBuilder) (g : Grammar), b.build = .ok g →
        ∀ t ∈ g.terminals.toList, t.text = text → ∀ token, t.accepts token = p.accepts token := by
  obtain ⟨p, hp, haccepts⟩ := Pattern.exists_ofSource_plain h
  have hliteral (token : String) : (Terminal.literal text).accepts token = p.accepts token := by
    rw [Bool.eq_iff_iff, haccepts, Terminal.accepts, beq_iff_eq]
    exact eq_comm
  have hplain := looksLikePattern_plain h
  refine ⟨p, hp, haccepts, hplain, fun b hb ↦ ?_, fun b g hg t ht htext token ↦ ?_⟩
  · exact ⟨_, GrammarBuilder.classify_of_not_looksLikePattern hplain hb, rfl, hliteral⟩
  · subst htext
    by_cases hb : t.text ∈ b.patterns
    · obtain ⟨q, hq, rfl⟩ := GrammarBuilder.pattern_of_mem_terminals hg hb ht
      cases hp.symm.trans hq
      rfl
    · have hc := GrammarBuilder.classify_text hg ht
      rw [GrammarBuilder.classify_of_not_looksLikePattern hplain hb, Except.ok.injEq] at hc
      rw [← hc]
      exact hliteral token

/-- Signs that mean something elsewhere in an expression, blanks and a line break. -/
theorem plain_text_accepts_itself_signs :
    (∀ c ∈ "-#&~ <:é>\n".toList, c ∉ metacharacters) ∧
    ∃ p, Pattern.ofSource "-#&~ <:é>\n" = .ok p ∧ p.accepts "-#&~ <:é>\n" = true ∧
      p.accepts "-#&~ <:é>" = false := by
  have hplain : ("-#&~ <:é>\n".toList.all fun c ↦ !metacharacters.contains c) = true := by decide
  have h : ∀ c ∈ "-#&~ <:é>\n".toList, c ∉ metacharacters := by
    intro c hc
    simpa using List.all_eq_true.mp hplain c hc
  obtain ⟨p, hp, haccepts, -⟩ := plain_text_accepts_itself h
  refine ⟨h, p, hp, (haccepts _).mpr rfl, ?_⟩
  rw [Bool.eq_false_iff, ne_eq, haccepts]
  decide

end TopDown
