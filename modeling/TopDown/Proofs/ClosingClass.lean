import TopDown.Proofs.ClosingText

namespace TopDown.Regex.Parser

variable {flags : Flags} {cs cs' : List Char}

/-- What can be left when a part of a class has taken characters of `closing`, or none. -/
def Short (cs : List Char) : Prop :=
  cs = closing ∨ cs = ['$'] ∨ cs = []

theorem agree_leadingMembers (frame : ClassFrame) (h : Longer cs cs') :
    Agree (fun _ cs ↦ cs = closing) (leadingMembers flags frame cs)
      (leadingMembers flags frame cs') := by
  obtain ⟨hyphens, r, r', hr, hr', hl⟩ := h.spanSkipping (p := (· == '-')) (by decide) flags
  rw [leadingMembers, leadingMembers, hr, hr']
  cases hl using Longer.byHead with
  | lost => exact .error _ _
  | nil =>
    dsimp only
    rw [if_neg (fun h ↦ absurd h.2 (by decide))]
    exact .late _ rfl
  | cons c rest =>
    dsimp only
    split_ifs
    · exact .ok _ rest
    · exact .ok _ (c :: rest)

theorem agree_openClass (cs : List Char) :
    Agree (fun _ cs ↦ cs = closing) (openClass flags cs) (openClass flags (cs ++ closing)) := by
  have hs := (Longer.kept cs).skipBlanks flags
  unfold openClass
  generalize skipBlanks flags cs = r, skipBlanks flags (cs ++ closing) = r' at hs ⊢
  cases hs using Longer.byHead with
  | lost => exact .error _ _
  | nil =>
    have hnil : leadingMembers flags { negated := false } [] = .error .unclosedClass := by
      cases hb : flags.ignoreBlanks <;> simp [leadingMembers, spanSkipping, spanSkippingAux, hb]
    rw [← hnil]
    exact agree_leadingMembers _ (.kept [])
  | cons c r =>
    dsimp only
    split_ifs
    · exact agree_leadingMembers _ (.kept r)
    · exact agree_leadingMembers _ (.kept (c :: r))

theorem classOfName?_append (flags : Flags) (negated : Bool) (cs : List Char) :
    classOfName? flags negated (cs ++ closing) =
      (classOfName? flags negated cs).map fun r ↦ (r.1, r.2 ++ closing) := by
  unfold classOfName?
  rw [splitAtChar?_append ':' (by decide)]
  cases splitAtChar? ':' cs with
  | none => rfl
  | some found =>
    obtain ⟨name, rest⟩ := found
    cases rest with
    | nil => rfl
    | cons c rest =>
      simp only [Option.map_some, List.cons_append]
      split_ifs
      · rw [Option.map_map]
        rfl
      · rfl

theorem namedClass?_append (flags : Flags) (cs : List Char) :
    namedClass? flags (cs ++ closing) =
      (namedClass? flags cs).map fun r ↦ (r.1, r.2 ++ closing) := by
  match cs with
  | [] => rfl
  | [c] =>
    by_cases hc : c = ':'
    · subst hc
      exact classOfName?_append flags false []
    · simp [namedClass?, hc]
  | c :: d :: rest =>
    by_cases hc : c = ':'
    · subst hc
      by_cases hd : d = '^'
      · subst hd
        exact classOfName?_append flags true rest
      · simpa [namedClass?, hd] using classOfName?_append flags false (d :: rest)
    · simp [namedClass?, hc]

theorem agree_classAtom (cs : List Char) :
    Agree (LateEscape flags) (classAtom flags cs) (classAtom flags (cs ++ closing)) := by
  cases cs with
  | nil => exact .late _ (.inl ⟨rfl, rfl⟩)
  | cons c cs =>
    simp only [List.cons_append, classAtom]
    split_ifs
    · exact agree_escape cs
    · exact .ok _ cs

theorem agree_of_short {α : Type} (e : SyntaxError) (x : Except SyntaxError α) (h : Short cs) :
    Agree (fun _ cs ↦ Short cs) (.error e) (x >>= fun a ↦ .ok (a, cs)) := by
  cases x with
  | error e' => exact .error e e'
  | ok a => exact .late e h

theorem agree_classRange (cs : List Char) :
    Agree (fun _ cs ↦ Short cs) (classRange flags cs) (classRange flags (cs ++ closing)) := by
  unfold classRange
  refine (agree_classAtom cs).bind (fun first cs ↦ ?_) fun e first cs hlate ↦ ?_
  · have hs := (Longer.kept cs).skipBlanks flags
    dsimp only
    generalize skipBlanks flags cs = r, skipBlanks flags (cs ++ closing) = r' at hs ⊢
    cases hs using Longer.byHead with
    | lost => exact .error _ _
    | nil =>
      cases hm : classMember flags first with
      | error e => exact .error _ _
      | ok s => exact .late _ (.inl rfl)
    | cons c r =>
      dsimp only
      split_ifs
      · exact .bind_ok id _ (c :: r)
      · have hs := (Longer.kept r).skipBlanks flags
        generalize skipBlanks flags r = t, skipBlanks flags (r ++ closing) = t' at hs ⊢
        cases hs using Longer.byHead with
        | lost => exact .error _ _
        | nil => exact agree_of_short _ (rangeOfAtoms flags first (.literal ')')) (.inr (.inl rfl))
        | cons d t =>
          dsimp only
          split_ifs
          · exact .bind_ok id _ (c :: r)
          · refine (agree_classAtom (d :: t)).bind (fun last cs ↦ ?_) fun e last cs hlate ↦ ?_
            · exact .bind_ok id _ cs
            · obtain ⟨rfl, rfl⟩ | ⟨rfl, -⟩ := hlate
              · exact agree_of_short _ _ (.inr (.inl rfl))
              · cases first <;> exact .error _ _
  · obtain ⟨rfl, rfl⟩ | ⟨rfl, r, rfl, -⟩ := hlate
    · simp only [skipBlanks_cons (c := '$') (by decide) (by decide)]
      exact agree_of_short _ _ (.inr (.inl rfl))
    · simp only [skipBlanks_cons (c := '\x7b') (by decide) (by decide)]
      exact .error _ _

theorem setOperator?_append (c : Char) (cs : List Char) :
    setOperator? c (cs ++ closing) = (setOperator? c cs).map fun r ↦ (r.1, r.2 ++ closing) := by
  cases cs with
  | nil =>
    simp only [List.nil_append, closing, setOperator?]
    split_ifs with h
    · rfl
    · cases Decidable.not_not.mp h
      rfl
  | cons d cs =>
    simp only [List.cons_append, setOperator?]
    split_ifs
    · rfl
    · split <;> rfl

def LateClass (r : ClassState ⊕ Nested CharSet) (cs : List Char) : Prop :=
  (∃ state, r = .inl state) ∧ Short cs

theorem agree_classStep (flags : Flags) (state : ClassState) (cs : List Char) :
    Agree LateClass (classStep flags state cs) (classStep flags state (cs ++ closing)) := by
  have hmember (cs : List Char) :
      Agree LateClass
        (classRange flags cs >>= fun r ↦
          .ok (.inl { state with frame := state.frame.add ⟨r.1, 0⟩ }, r.2))
        (classRange flags (cs ++ closing) >>= fun r ↦
          .ok (.inl { state with frame := state.frame.add ⟨r.1, 0⟩ }, r.2)) :=
    (agree_classRange cs).bind (fun s cs ↦ .ok _ cs) fun e s cs hs ↦ .late e ⟨⟨_, rfl⟩, hs⟩
  cases cs with
  | nil => exact hmember []
  | cons c cs =>
    simp only [List.cons_append, classStep]
    split_ifs
    · rw [namedClass?_append]
      cases namedClass? flags cs with
      | some found =>
        exact .bind_ok (fun s ↦ Sum.inl { state with frame := state.frame.add ⟨s, 0⟩ }) found.1
          found.2
      | none =>
        exact (agree_openClass cs).bind (fun frame cs ↦ .ok _ cs)
          fun e frame cs hs ↦ .late e ⟨⟨_, rfl⟩, .inl hs⟩
    · cases state.outer with
      | nil => exact .bind_ok Sum.inr _ cs
      | cons frame outer =>
        exact .bind_ok (fun s ↦ Sum.inl (ClassState.mk (frame.add s) outer)) _ cs
    · rw [setOperator?_append]
      cases setOperator? c cs with
      | some found => exact .ok _ found.2
      | none => exact hmember (c :: cs)

theorem classLoop_nil (state : ClassState) :
    classLoop flags state [] = .error .unclosedClass := by
  rw [classLoop, skipBlanks_nil]
  rfl

theorem classLoop_dollar (state : ClassState) :
    classLoop flags state ['$'] = .error .unclosedClass := by
  have hs : skipBlanks flags ['$'] = ['$'] := skipBlanks_cons (by decide) (by decide) []
  have hr : classRange flags ['$'] = .error .unclosedClass := by
    have ha : classAtom flags ['$'] = .ok (.literal '$', []) := rfl
    simp only [classRange, ha, bind, Except.bind, skipBlanks_nil]
    rfl
  have hstep : classStep flags state ['$'] = classRange flags ['$'] >>= fun r ↦
      .ok (.inl { state with frame := state.frame.add ⟨r.1, 0⟩ }, r.2) := rfl
  rw [classLoop, hs, hstep, hr]
  rfl

theorem exists_classLoop_eq_error (flags : Flags) (state : ClassState) (h : Short cs) :
    ∃ e, classLoop flags state cs = .error e := by
  obtain rfl | rfl | rfl := h
  · have hs : skipBlanks flags closing = closing := skipBlanks_cons (by decide) (by decide) ['$']
    have hstep := agree_classStep flags state []
    have hempty : classStep flags state [] = .error .unclosedClass := rfl
    rw [classLoop, hs]
    rw [List.nil_append, hempty] at hstep
    generalize classStep flags state closing = y at hstep ⊢
    cases hstep with
    | error e e' => exact ⟨e', rfl⟩
    | late e h =>
      obtain ⟨⟨state, rfl⟩, rfl | rfl | rfl⟩ := h
      · exact ⟨_, rfl⟩
      · exact ⟨_, classLoop_dollar state⟩
      · exact ⟨_, classLoop_nil state⟩
  · exact ⟨_, classLoop_dollar state⟩
  · exact ⟨_, classLoop_nil state⟩

theorem exists_agree_and_classLoop_eq {state : ClassState}
    {y : Except SyntaxError ((ClassState ⊕ Nested CharSet) × List Char)}
    (hy : classStep flags state (skipBlanks flags cs) = y) :
    ∃ x, Agree LateClass y x ∧
      classLoop flags state (cs ++ closing) = match x with
        | .error e => .error e
        | .ok (.inr s, rest) => .ok (s, rest)
        | .ok (.inl state, rest) =>
          if rest.length < (cs ++ closing).length then classLoop flags state rest
          else .error .unclosedClass := by
  subst hy
  refine ⟨_, ?_, classLoop.eq_def flags state (cs ++ closing)⟩
  have hs := (Longer.kept cs).skipBlanks flags
  generalize skipBlanks flags cs = r, skipBlanks flags (cs ++ closing) = r' at hs ⊢
  cases hs with
  | lost => exact .error _ _
  | kept => exact agree_classStep flags state r

theorem agree_classLoop (state : ClassState) (cs : List Char) :
    Agree Never (classLoop flags state cs) (classLoop flags state (cs ++ closing)) := by
  fun_induction classLoop flags state cs with
  | case1 state cs e hx =>
    obtain ⟨x, ha, hloop⟩ := exists_agree_and_classLoop_eq hx
    rw [hloop]
    cases ha with
    | error e e' => exact .error _ _
    | late e hl =>
      obtain ⟨⟨state', rfl⟩, hs⟩ := hl
      obtain ⟨e', he⟩ := exists_classLoop_eq_error flags state' hs
      dsimp only
      rw [he]
      split_ifs <;> exact .error _ _
  | case2 state cs s rest hx =>
    obtain ⟨x, ha, hloop⟩ := exists_agree_and_classLoop_eq hx
    rw [hloop]
    cases ha with
    | ok _ rest => exact .ok s rest
  | case3 state cs state' rest hx hlt ih =>
    obtain ⟨x, ha, hloop⟩ := exists_agree_and_classLoop_eq hx
    rw [hloop]
    cases ha with
    | ok _ rest =>
      dsimp only
      rw [if_pos (length_append_closing_lt_iff.mpr hlt)]
      exact ih
  | case4 state cs state' rest hx hlt =>
    obtain ⟨x, ha, hloop⟩ := exists_agree_and_classLoop_eq hx
    rw [hloop]
    cases ha with
    | ok _ rest =>
      dsimp only
      rw [if_neg (mt length_append_closing_lt_iff.mp hlt)]
      exact .error _ _

theorem agree_bracketClass (cs : List Char) :
    Agree Never (bracketClass flags cs) (bracketClass flags (cs ++ closing)) := by
  refine (agree_openClass cs).bind (fun frame cs ↦ agree_classLoop _ cs) fun e frame cs hs ↦ ?_
  obtain ⟨e', he⟩ := exists_classLoop_eq_error flags ⟨frame, []⟩ (.inl hs)
  dsimp only
  rw [he]
  exact .error _ _

end TopDown.Regex.Parser
