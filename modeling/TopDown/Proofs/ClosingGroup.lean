import TopDown.Proofs.ClosingClass

namespace TopDown.Regex.Parser

variable {state : State} {cs cs' : List Char}

/-- No step from here on takes a closing bracket. -/
def Stuck (state state' : State) (cs : List Char) : Prop :=
  state'.outer = state.outer ∧ (cs = ['$'] ∨ Stalled state'.flags cs)

theorem lazyMark_closing {ahead ahead' : List Char} (h : Longer ahead ahead') (cs : List Char) :
    lazyMark ahead' (cs ++ closing) =
      ((lazyMark ahead cs).1, (lazyMark ahead cs).2 ++ closing) := by
  cases h using Longer.byHead with
  | lost | nil => rfl
  | cons c rest =>
    by_cases hc : c = '?'
    · subst hc
      rfl
    · simp [lazyMark, hc]

theorem agree_uncounted (min : Nat) (max : Option Nat) (cs : List Char) :
    Agree Never (uncounted state min max cs) (uncounted state min max (cs ++ closing)) := by
  simp only [uncounted, lazyMark_closing (.kept cs)]
  exact .bind_ok id _ _

theorem decimal_closing (flags : Flags) : decimal flags closing = .ok (none, closing) := by
  have hb : Unicode.isBlank ')' = false := by decide
  have hd : Char.isDigit ')' = false := by decide
  cases hi : flags.ignoreBlanks <;>
    simp [decimal, closing, spanSkipping, spanSkippingAux, skipBlanks, skipBlanksAux, hi, hb, hd]

theorem agree_roundsFrom {flags : Flags} (low : Nat) (h : Longer cs cs') :
    Agree Never (roundsFrom flags low cs) (roundsFrom flags low cs') := by
  cases h using Longer.byHead with
  | lost => exact .error _ _
  | nil => exact .error _ _
  | cons c cs =>
    simp only [roundsFrom]
    split_ifs
    · exact .ok _ cs
    · exact .error _ _
    · have hs := (Longer.kept cs).skipBlanks flags
      generalize skipBlanks flags cs = r, skipBlanks flags (cs ++ closing) = r' at hs ⊢
      cases hs using Longer.byHead with
      | lost => exact .error _ _
      | nil =>
        have hd : decimal flags [')', '$'] = .ok (none, closing) := decimal_closing flags
        simp only [hd]
        exact .error _ _
      | cons c r =>
        dsimp only
        split_ifs
        · exact .ok _ r
        · obtain ⟨e, he, he'⟩ | ⟨high, t, t', ht, ht', hl⟩ :=
            decimal_longer flags (.kept (c :: r))
          · rw [List.cons_append] at he'
            rw [he, he']
            exact .error _ _
          · rw [List.cons_append] at ht'
            simp only [ht, ht']
            cases high with
            | none => exact .error _ _
            | some high =>
              cases hl using Longer.byHead with
              | lost => exact .error _ _
              | nil => exact .error _ _
              | cons c cs =>
                simp only [bind, Except.bind]
                split_ifs
                · exact .ok _ cs
                · exact .error _ _

theorem agree_counted (cs : List Char) :
    Agree Never (counted state cs) (counted state (cs ++ closing)) := by
  unfold counted
  cases state.takeOperand with
  | error e => exact .error _ _
  | ok operand =>
    obtain ⟨e, he, he'⟩ | ⟨low, r, r', hr, hr', hl⟩ :=
      decimal_longer state.flags ((Longer.kept cs).skipBlanks state.flags)
    · simp only [he, he']
      exact .error _ _
    · simp only [hr, hr']
      cases low with
      | none => exact .error _ _
      | some low =>
        refine (agree_roundsFrom low hl).bind (fun rounds cs ↦ ?_) fun _ _ _ ↦ False.elim
        have hmark := lazyMark_closing ((Longer.kept cs).skipBlanks state.flags) cs
        simp only [hmark]
        exact .bind_ok id _ _

theorem agree_groupName (cs : List Char) :
    Agree Never (groupName state cs) (groupName state (cs ++ closing)) := by
  unfold groupName
  rw [splitAtChar?_append '>' (by decide)]
  cases splitAtChar? '>' cs with
  | none => exact .error _ _
  | some found =>
    obtain ⟨name, rest⟩ := found
    cases name with
    | nil => exact .error _ _
    | cons first others =>
      simp only [Option.map_some]
      split_ifs
      · exact .error _ _
      · exact .error _ _
      · exact .ok _ rest

theorem agree_flagLetters (flags : Flags) (value : Bool) (seen cs : List Char) :
    Agree (fun _ cs ↦ cs = closing) (flagLetters flags value seen cs)
      (flagLetters flags value seen (cs ++ closing)) := by
  induction cs generalizing flags value seen with
  | nil =>
    simp only [List.nil_append, closing, flagLetters, or_true, if_true]
    split_ifs
    · exact .error _ _
    · exact .late _ rfl
  | cons c cs ih =>
    simp only [List.cons_append, flagLetters]
    split_ifs
    · exact .error _ _
    · exact .ok _ (c :: cs)
    · exact .error _ _
    · exact ih _ _ _
    · cases flags.set? c value with
      | none => exact .error _ _
      | some flags => exact ih _ _ _

theorem agree_flaggedGroup (cs : List Char) :
    Agree (Stuck state) (flaggedGroup state cs) (flaggedGroup state (cs ++ closing)) := by
  have hclosing (e : SyntaxError) (flags : Flags) (seen : List Char) : Agree (Stuck state)
      (.error e) (if seen.isEmpty then .error .nothingToRepeat
        else .ok (state.setFlags flags, ['$'])) := by
    split_ifs
    · exact .error _ _
    · exact .late _ ⟨rfl, .inl rfl⟩
  refine (agree_flagLetters state.flags true [] cs).bind (fun r cs ↦ ?_) fun e r cs hs ↦ ?_
  · cases cs with
    | nil => exact hclosing _ r.1 r.2
    | cons c cs =>
      simp only [List.cons_append]
      split_ifs
      · exact .ok _ cs
      · exact .error _ _
      · exact .ok _ cs
  · subst hs
    exact hclosing e r.1 r.2

theorem head?_append_closing {c : Char} (hc : c ≠ ')') (cs : List Char) :
    (cs ++ closing).head? = some c ↔ cs.head? = some c := by
  cases cs with
  | nil => simp [closing, hc.symm]
  | cons d cs => rfl

theorem agree_markedGroup (cs : List Char) :
    Agree (Stuck state) (markedGroup state cs) (markedGroup state (cs ++ closing)) := by
  have hname (cs : List Char) :
      Agree (Stuck state) (groupName state cs) (groupName state (cs ++ closing)) :=
    (agree_groupName cs).mono fun _ _ ↦ False.elim
  cases cs with
  | nil => exact agree_flaggedGroup []
  | cons c cs =>
    simp only [List.cons_append, markedGroup, head?_append_closing (c := '=') (by decide),
      head?_append_closing (c := '!') (by decide), head?_append_closing (c := '<') (by decide)]
    split_ifs with _ _ _ hc
    · exact .error _ _
    · exact .error _ _
    · exact hname cs
    · cases cs with
      | nil => cases hc.2
      | cons d cs => exact hname cs
    · exact agree_flaggedGroup (c :: cs)

theorem agree_group (cs : List Char) :
    Agree (Stuck state) (group state cs) (group state (cs ++ closing)) := by
  have hs := (Longer.kept cs).skipBlanks state.flags
  unfold group
  generalize skipBlanks state.flags cs = r, skipBlanks state.flags (cs ++ closing) = r' at hs ⊢
  cases hs using Longer.byHead with
  | lost => exact .ok _ cs
  | nil => exact .ok _ cs
  | cons c r =>
    by_cases hc : c = '?'
    · subst hc
      exact agree_markedGroup r
    · simpa [hc] using Agree.ok (state.openGroup state.flags) cs

theorem agree_step (c : Char) (cs : List Char) :
    Agree (Stuck state) (step state c cs) (step state c (cs ++ closing)) := by
  have hcount (min : Nat) (max : Option Nat) :
      Agree (Stuck state) (uncounted state min max cs) (uncounted state min max (cs ++ closing)) :=
    (agree_uncounted min max cs).mono fun _ _ ↦ False.elim
  unfold step
  split
  case h_1 => exact agree_group cs
  case h_2 => exact .bind_ok id _ cs
  case h_4 =>
    exact (agree_bracketClass cs).bind (fun s cs ↦ .ok _ cs) fun _ _ _ ↦ False.elim
  case h_5 | h_6 | h_7 => exact hcount _ _
  case h_8 => exact (agree_counted cs).mono fun _ _ ↦ False.elim
  case h_9 =>
    refine (agree_escape cs).bind (fun atom cs ↦ .ok _ cs) fun e atom cs hs ↦ ?_
    have houter : (addAtom state atom).outer = state.outer := by cases atom <;> rfl
    obtain ⟨-, hs⟩ | ⟨rfl, hs⟩ := hs
    · exact .late e ⟨houter, .inl hs⟩
    · exact .late e ⟨houter, .inr hs⟩
  case h_10 => exact .bind_ok (fun r ↦ state.add ⟨r, 0⟩) _ cs
  all_goals exact .ok _ cs

def State.under (state : State) (groups : List (Frame × Flags)) : State :=
  { state with outer := state.outer ++ groups }

variable (groups : List (Frame × Flags))

def underResult (r : Except SyntaxError (State × List Char)) :
    Except SyntaxError (State × List Char) :=
  r.map fun r ↦ (r.1.under groups, r.2)

variable {groups}

theorem underResult_bind {α : Type} (x : Except SyntaxError α)
    {f g : α → Except SyntaxError (State × List Char)}
    (h : ∀ a, g a = underResult groups (f a)) : x >>= g = underResult groups (x >>= f) := by
  cases x with
  | error e => rfl
  | ok a => exact h a

variable (groups)

theorem takeOperand_under (state : State) :
    (state.under groups).takeOperand =
      state.takeOperand.map fun r ↦ (r.1, r.2.under groups) := by
  obtain ⟨⟨branches, pieces⟩, flags, outer, names⟩ := state
  match pieces with
  | [] | .flags :: _ | .part _ :: _ => rfl

theorem repeatLast_under (state : State) (min : Nat) (max : Option Nat) (lazy : Bool)
    (cs : List Char) :
    ((state.under groups).repeatLast min max lazy >>= fun s ↦ .ok (s, cs)) =
      underResult groups (state.repeatLast min max lazy >>= fun s ↦ .ok (s, cs)) := by
  unfold State.repeatLast
  rw [takeOperand_under]
  cases state.takeOperand <;> rfl

theorem counted_under (state : State) (cs : List Char) :
    counted (state.under groups) cs = underResult groups (counted state cs) := by
  unfold counted
  rw [takeOperand_under]
  cases state.takeOperand with
  | error e => rfl
  | ok operand =>
    change decimal state.flags (skipBlanks state.flags cs) >>= _ =
      underResult groups (decimal state.flags (skipBlanks state.flags cs) >>= _)
    refine underResult_bind _ fun r ↦ ?_
    obtain ⟨low, rest⟩ := r
    cases low with
    | none => rfl
    | some low => exact underResult_bind _ fun r ↦ repeatLast_under groups state _ _ _ _

theorem groupName_under (state : State) (cs : List Char) :
    groupName (state.under groups) cs = underResult groups (groupName state cs) := by
  have hnames : (state.under groups).names = state.names := rfl
  unfold groupName
  rw [hnames]
  cases splitAtChar? '>' cs with
  | none => rfl
  | some found =>
    obtain ⟨name, rest⟩ := found
    cases name with
    | nil => rfl
    | cons first others =>
      dsimp only
      split_ifs <;> rfl

theorem flaggedGroup_under (state : State) (cs : List Char) :
    flaggedGroup (state.under groups) cs = underResult groups (flaggedGroup state cs) := by
  refine underResult_bind _ fun r ↦ ?_
  obtain ⟨⟨flags, seen⟩, rest⟩ := r
  cases rest with
  | nil => rfl
  | cons c rest =>
    dsimp only
    split_ifs <;> rfl

theorem markedGroup_under (state : State) (cs : List Char) :
    markedGroup (state.under groups) cs = underResult groups (markedGroup state cs) := by
  cases cs with
  | nil => rfl
  | cons c rest =>
    simp only [markedGroup, groupName_under, flaggedGroup_under]
    split_ifs <;> rfl

theorem group_under (state : State) (cs : List Char) :
    group (state.under groups) cs = underResult groups (group state cs) := by
  have hflags : (state.under groups).flags = state.flags := rfl
  unfold group
  rw [hflags]
  split
  · exact markedGroup_under groups state _
  · rfl

theorem closeGroup_under (h : state.outer ≠ []) :
    (state.under groups).closeGroup = state.closeGroup.map (·.under groups) := by
  obtain ⟨frame, flags, outer, names⟩ := state
  cases outer with
  | nil => exact absurd rfl h
  | cons around outer => rfl

theorem step_under (c : Char) (h : c = ')' → state.outer ≠ []) (cs : List Char) :
    step (state.under groups) c cs = underResult groups (step state c cs) := by
  unfold step
  split
  case h_1 => exact group_under groups state cs
  case h_2 =>
    rw [closeGroup_under groups (h rfl)]
    cases state.closeGroup <;> rfl
  case h_4 => exact underResult_bind _ fun _ ↦ rfl
  case h_5 | h_6 | h_7 => exact repeatLast_under groups state _ _ _ _
  case h_8 => exact counted_under groups state cs
  case h_9 =>
    refine underResult_bind _ fun r ↦ ?_
    obtain ⟨atom, rest⟩ := r
    cases atom <;> rfl
  case h_10 => exact underResult_bind _ fun _ ↦ rfl
  all_goals rfl

end TopDown.Regex.Parser
