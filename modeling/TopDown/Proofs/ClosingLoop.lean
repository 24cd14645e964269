import TopDown.Proofs.ClosingGroup

namespace TopDown.Regex.Parser

variable {state : State} {cs cs' : List Char} {groups : List (Frame × Flags)}

/-- A `#` under the flag `x` with no line break after it. -/
def InComment (flags : Flags) (cs : List Char) : Prop :=
  flags.ignoreBlanks = true ∧
    ∃ before after, cs = before ++ '#' :: after ∧ '\n' ∉ after

/--
The reader comes to a place under the flag `x` from where on only blanks and comments are left, and
the last comment has no line break after it.
-/
inductive EndsInComment : State → List Char → Prop
  | here {state : State} {cs : List Char} (hskip : skipBlanks state.flags cs = [])
      (h : InComment state.flags cs) : EndsInComment state cs
  | step {state state' : State} {cs rest rest' : List Char} {c : Char}
      (hskip : skipBlanks state.flags cs = c :: rest)
      (hstep : step state c rest = .ok (state', rest')) (h : EndsInComment state' rest') :
      EndsInComment state cs

theorem not_endsInComment_of_skipBlanks (hskip : skipBlanks state.flags cs = [])
    (h : ¬ InComment state.flags cs) : ¬ EndsInComment state cs := by
  intro hend
  cases hend with
  | here _ hin => exact h hin
  | step hskip' => cases hskip.symm.trans hskip'

theorem endsInComment_step_iff {state' : State} {rest rest' : List Char} {c : Char}
    (hskip : skipBlanks state.flags cs = c :: rest)
    (hstep : step state c rest = .ok (state', rest')) :
    EndsInComment state cs ↔ EndsInComment state' rest' := by
  refine ⟨fun h ↦ ?_, .step hskip hstep⟩
  cases h with
  | here hskip' => cases hskip.symm.trans hskip'
  | step hskip' hstep' h =>
    cases hskip.symm.trans hskip'
    cases hstep.symm.trans hstep'
    exact h

/-- Whether a comment is open at the end of a text, where one is open at its start or not. -/
def OpenAtEnd (comment : Bool) (cs : List Char) : Prop :=
  (comment = true ∧ '\n' ∉ cs) ∨ ∃ before after, cs = before ++ '#' :: after ∧ '\n' ∉ after

theorem openAtEnd_cons_of_ne {comment : Bool} {c : Char} (hc : c ≠ '#') :
    OpenAtEnd comment (c :: cs) ↔ OpenAtEnd (comment && c != '\n') cs := by
  constructor
  · rintro (⟨rfl, h⟩ | ⟨before, after, he, h⟩)
    · simp only [List.mem_cons, not_or] at h
      exact .inl ⟨by simpa using Ne.symm h.1, h.2⟩
    · cases before with
      | nil => cases he; exact absurd rfl hc
      | cons d before => cases he; exact .inr ⟨before, after, rfl, h⟩
  · rintro (⟨hb, h⟩ | ⟨before, after, rfl, h⟩)
    · simp only [Bool.and_eq_true, bne_iff_ne] at hb
      exact .inl ⟨hb.1, by simpa using ⟨Ne.symm hb.2, h⟩⟩
    · exact .inr ⟨c :: before, after, rfl, h⟩

theorem openAtEnd_sharp_cons (comment : Bool) :
    OpenAtEnd comment ('#' :: cs) ↔ OpenAtEnd true cs := by
  constructor
  · rintro (⟨rfl, h⟩ | ⟨before, after, he, h⟩)
    · exact .inl ⟨rfl, fun hm ↦ h (List.mem_cons_of_mem _ hm)⟩
    · cases before with
      | nil => cases he; exact .inl ⟨rfl, h⟩
      | cons d before => cases he; exact .inr ⟨before, after, rfl, h⟩
  · rintro (⟨-, h⟩ | ⟨before, after, rfl, h⟩)
    · exact .inr ⟨[], cs, rfl, h⟩
    · exact .inr ⟨'#' :: before, after, rfl, h⟩

theorem skipBlanksAux_closing_cases {comment : Bool} (h : skipBlanksAux comment cs = []) :
    (skipBlanksAux comment (cs ++ closing) = closing ∧ ¬ OpenAtEnd comment cs) ∨
      skipBlanksAux comment (cs ++ closing) = [] ∧ OpenAtEnd comment cs := by
  induction cs generalizing comment with
  | nil =>
    cases comment with
    | true => exact .inr ⟨rfl, .inl ⟨rfl, List.not_mem_nil⟩⟩
    | false => exact .inl ⟨by decide, by rintro (⟨⟨⟩, -⟩ | ⟨_ | _, _, ⟨⟩, -⟩)⟩
  | cons c cs ih =>
    cases comment with
    | true =>
      by_cases hc : c = '#'
      · subst hc
        rw [openAtEnd_sharp_cons]
        exact ih h
      · rw [openAtEnd_cons_of_ne hc, Bool.true_and]
        exact ih h
    | false =>
      simp only [List.cons_append, skipBlanksAux] at h ⊢
      split_ifs at h ⊢ with hb hc
      · have hne : c ≠ '#' := by
          rintro rfl
          exact absurd hb (by decide)
        rw [openAtEnd_cons_of_ne hne, Bool.false_and]
        exact ih h
      · subst hc
        rw [openAtEnd_sharp_cons]
        exact ih h

theorem skipBlanks_closing_cases {flags : Flags} (h : skipBlanks flags cs = []) :
    (skipBlanks flags (cs ++ closing) = closing ∧ ¬ InComment flags cs) ∨
      skipBlanks flags (cs ++ closing) = [] ∧ InComment flags cs := by
  unfold skipBlanks InComment at *
  cases hx : flags.ignoreBlanks with
  | false =>
    rw [hx, if_neg Bool.false_ne_true] at h
    subst h
    exact .inl ⟨rfl, nofun⟩
  | true =>
    rw [hx] at h
    simpa [OpenAtEnd] using skipBlanksAux_closing_cases h

/--
What comes of a text with `closing` after it inside of any groups, and of the text by itself. `lost`
says whether what follows the text is hidden by a comment.
-/
inductive Outcome (y : List (Frame × Flags) → Except SyntaxError State) (lost : Prop) :
    Except SyntaxError State → Prop
  | lost (s : State) (hl : lost) (h : ∀ groups, y groups = .ok (s.under groups)) :
    Outcome y lost (.ok s)
  | closed (s : State) (hl : ¬ lost) (h : ∀ groups, y groups = loop (s.under groups) closing) :
    Outcome y lost (.ok s)
  | failed (e : SyntaxError) (h : ∀ groups s, y groups = .ok s → groups <:+ s.outer) :
    Outcome y lost (.error e)

theorem loop_nil (state : State) : loop state [] = .ok state := by
  rw [loop.eq_def, skipBlanks_nil]

theorem loop_step {c : Char} {rest cs' : List Char} {state' : State}
    (hs : skipBlanks state.flags cs = c :: rest) (h : step state c rest = .ok (state', cs'))
    (hlt : cs'.length < cs.length) : loop state cs = loop state' cs' := by
  rw [loop.eq_def, hs]
  simp only [h]
  exact if_pos hlt

theorem loop_dollar (state : State) :
    loop state ['$'] = .ok (addAtom state (.look state.flags.dollar)) :=
  (loop_step (skipBlanks_cons (by decide) (by decide) []) rfl (by decide)).trans (loop_nil _)

theorem loop_under {c : Char} {rest : List Char} (hs : skipBlanks state.flags cs = c :: rest)
    (hc : c = ')' → state.outer ≠ []) : loop (state.under groups) cs =
      match step state c rest with
      | .error e => .error e
      | .ok (s, r) => if r.length < cs.length then loop (s.under groups) r else .error .noEnd := by
  have hflags : (state.under groups).flags = state.flags := rfl
  rw [loop.eq_def, hflags, hs]
  simp only [step_under groups c hc]
  cases step state c rest <;> rfl

theorem Stuck.isSuffix {state' s : State} (h : Stuck state state' cs)
    (hs : loop (state'.under groups) cs = .ok s) : groups <:+ s.outer := by
  obtain ⟨-, rfl | ⟨rest, rfl, hrest⟩⟩ := h
  · rw [loop_dollar] at hs
    cases hs
    exact List.suffix_append state'.outer groups
  · have hskip : skipBlanks state'.flags ('\x7b' :: rest) = '\x7b' :: rest :=
      skipBlanks_cons (by decide) (by decide) rest
    have hstep : ∃ e, step state' '\x7b' rest = .error e := by
      change ∃ e, counted state' rest = .error e
      unfold counted
      rw [hrest, decimal_closing]
      cases state'.takeOperand with
      | error e => exact ⟨e, rfl⟩
      | ok operand => exact ⟨_, rfl⟩
    obtain ⟨e, he⟩ := hstep
    rw [loop_under hskip (fun hc ↦ absurd hc (by decide)), he] at hs
    cases hs

theorem closeGroup_of_eq_nil (h : state.outer = []) :
    state.closeGroup = .error .unopenedGroup := by
  unfold State.closeGroup
  rw [h]

theorem ne_nil_of_step_ne {c : Char} (h : step state c cs ≠ .error .unopenedGroup) :
    c = ')' → state.outer ≠ [] := by
  rintro rfl ho
  refine h ?_
  change state.closeGroup >>= _ = _
  rw [closeGroup_of_eq_nil ho]
  rfl

theorem loop_blanks_closing (hs : skipBlanks state.flags cs = closing) (hl : 1 < cs.length) :
    loop state cs = state.closeGroup >>= fun s ↦ loop s ['$'] := by
  have hstep : step state ')' ['$'] = state.closeGroup >>= fun s ↦ .ok (s, ['$']) := rfl
  rw [loop.eq_def, hs]
  simp only [closing, hstep]
  cases state.closeGroup with
  | error e => rfl
  | ok s => exact if_pos hl

theorem loop_closing (state : State) :
    loop state closing = state.closeGroup >>= fun s ↦ loop s ['$'] :=
  loop_blanks_closing (skipBlanks_cons (by decide) (by decide) ['$']) (by decide)

theorem loop_under_closing_of_ne (h : state.outer ≠ []) {s : State}
    (hs : loop (state.under groups) closing = .ok s) : groups <:+ s.outer := by
  rw [loop_closing, closeGroup_under groups h] at hs
  obtain ⟨frame, flags, outer, names⟩ := state
  cases outer with
  | nil => exact absurd rfl h
  | cons around outer =>
    cases (loop_dollar _).symm.trans hs
    exact List.suffix_append outer groups

theorem exists_agree_and_loop_eq {c : Char} {rest : List Char}
    {y : Except SyntaxError (State × List Char)} (hs : skipBlanks state.flags cs = c :: rest)
    (hy : step state c rest = y) (hu : y ≠ .error .unopenedGroup) :
    ∃ x, Agree (Stuck state) y x ∧
      ∀ groups, loop (state.under groups) (cs ++ closing) = match x with
        | .error e => .error e
        | .ok (s, r) =>
          if r.length < (cs ++ closing).length then loop (s.under groups) r
          else .error .noEnd := by
  subst hy
  have hs' := (Longer.kept cs).skipBlanks state.flags
  rw [hs] at hs'
  generalize hr : skipBlanks state.flags (cs ++ closing) = r at hs'
  cases hs' with
  | kept => exact ⟨_, agree_step c rest, fun _ ↦ loop_under hr (ne_nil_of_step_ne hu)⟩

/-- The reader goes the same way through both texts, up to the end of the shorter one. -/
theorem outcome_loop (hu : loop state cs ≠ .error .unopenedGroup) :
    Outcome (fun groups ↦ loop (state.under groups) (cs ++ closing)) (EndsInComment state cs)
      (loop state cs) := by
  fun_induction loop state cs with
  | case1 state cs hskip =>
    obtain ⟨hclosing, hend⟩ | ⟨hlost, hend⟩ := skipBlanks_closing_cases hskip
    · refine .closed state (not_endsInComment_of_skipBlanks hskip hend) fun groups ↦ ?_
      rw [loop_closing]
      exact loop_blanks_closing hclosing (by simp [closing])
    · refine .lost state (.here hskip hend) fun groups ↦ ?_
      have hflags : (state.under groups).flags = state.flags := rfl
      rw [loop.eq_def, hflags, hlost]
  | case2 state cs c rest hskip e hstep =>
    obtain ⟨x, ha, hx⟩ := exists_agree_and_loop_eq hskip hstep
      fun he ↦ hu (congrArg _ (Except.error.inj he))
    refine .failed e fun groups s hs ↦ ?_
    rw [hx] at hs
    cases ha with
    | error e e' => cases hs
    | late e hstuck =>
      dsimp only at hs
      split_ifs at hs
      exact hstuck.isSuffix hs
  | case3 state cs c rest hskip state' rest' hstep hlt ih =>
    obtain ⟨x, ha, hx⟩ := exists_agree_and_loop_eq hskip hstep (by simp)
    -- The step reads the same part of both texts, and ends in a comment where the rest does.
    simp only [hx, endsInComment_step_iff hskip hstep]
    cases ha with
    | ok s rest =>
      simp only [if_pos (length_append_closing_lt_iff.mpr hlt)]
      exact ih hu
  | case4 state cs c rest hskip state' rest' hstep hlt =>
    obtain ⟨x, ha, hx⟩ := exists_agree_and_loop_eq hskip hstep (by simp)
    refine .failed _ fun groups s hs ↦ ?_
    rw [hx] at hs
    cases ha with
    | ok s rest =>
      dsimp only at hs
      rw [if_neg (mt length_append_closing_lt_iff.mp hlt)] at hs
      cases hs

end TopDown.Regex.Parser
