import Mathlib.Data.List.TakeWhile
import Mathlib.Tactic.Common
import TopDown.Proofs.ClosingGroup

namespace TopDown.Regex.Parser

variable {α β : Type} {flags : Flags} {tail cs : List Char}

/-- What can be read off a text is read alike, and all of the rest is left, where more follows. -/
inductive Kept (tail : List Char) :
    Except SyntaxError (α × List Char) → Except SyntaxError (α × List Char) → Prop
  | ok (a : α) (cs : List Char) : Kept tail (.ok (a, cs)) (.ok (a, cs ++ ')' :: tail))
  | error (e : SyntaxError) (y : Except SyntaxError (α × List Char)) : Kept tail (.error e) y

namespace Kept

variable {x y : Except SyntaxError (α × List Char)}

theorem eq_ok (h : Kept tail x y) {a : α} {rest : List Char} (hx : x = .ok (a, rest)) :
    y = .ok (a, rest ++ ')' :: tail) := by
  cases h with
  | ok =>
    cases hx
    rfl
  | error => cases hx

theorem bind {f g : α × List Char → Except SyntaxError (β × List Char)} (h : Kept tail x y)
    (hok : ∀ a cs, Kept tail (f (a, cs)) (g (a, cs ++ ')' :: tail))) :
    Kept tail (x >>= f) (y >>= g) := by
  cases h with
  | ok a cs => exact hok a cs
  | error e => exact .error e _

theorem bind_ok (f : β → α) (x : Except SyntaxError β) (cs : List Char) :
    Kept tail (x >>= fun b ↦ .ok (f b, cs)) (x >>= fun b ↦ .ok (f b, cs ++ ')' :: tail)) := by
  cases x with
  | error e => exact .error e _
  | ok b => exact .ok (f b) cs

theorem map (f : α → β) (h : Kept tail x y) :
    Kept tail (x.map fun r ↦ (f r.1, r.2)) (y.map fun r ↦ (f r.1, r.2)) := by
  cases h with
  | ok a cs => exact .ok (f a) cs
  | error e => exact .error e _

end Kept

theorem skipBlanks_of_false (hb : flags.ignoreBlanks = false) (cs : List Char) :
    skipBlanks flags cs = cs := by
  rw [skipBlanks, hb, if_neg Bool.false_ne_true]

theorem spanSkipping_of_false (hb : flags.ignoreBlanks = false) (p : Char → Bool)
    (cs : List Char) : spanSkipping flags p cs = (cs.takeWhile p, cs.dropWhile p) := by
  rw [spanSkipping, hb, if_neg Bool.false_ne_true]

theorem span_bracket {p : Char → Bool} (hp : p ')' = false) (tail cs : List Char) :
    (cs ++ ')' :: tail).takeWhile p = cs.takeWhile p ∧
      (cs ++ ')' :: tail).dropWhile p = cs.dropWhile p ++ ')' :: tail := by
  induction cs with
  | nil => simp [hp]
  | cons c cs ih =>
    cases hc : p c with
    | true => simpa [hc] using ih
    | false => simp [hc]

theorem span_append {p : Char → Bool} {c : Char} {rest : List Char}
    (h : cs.dropWhile p = c :: rest) (more : List Char) :
    (cs ++ more).takeWhile p = cs.takeWhile p ∧
      (cs ++ more).dropWhile p = c :: (rest ++ more) := by
  induction cs with
  | nil => cases h
  | cons d cs ih =>
    cases hd : p d with
    | true =>
      rw [List.dropWhile_cons_of_pos hd] at h
      simpa [hd] using ih h
    | false =>
      rw [List.dropWhile_cons_of_neg (by simp [hd])] at h
      cases h
      simp [hd]

theorem splitAtChar?_eq_some_append {stop : Char} {before after : List Char}
    (h : splitAtChar? stop cs = some (before, after)) (more : List Char) :
    splitAtChar? stop (cs ++ more) = some (before, after ++ more) := by
  unfold splitAtChar? at h ⊢
  cases hd : cs.dropWhile (· != stop) with
  | nil =>
    rw [hd] at h
    cases h
  | cons c rest =>
    rw [hd] at h
    cases h
    obtain ⟨htake, hdrop⟩ := span_append hd more
    rw [hdrop, htake]

theorem kept_hexDigits (hb : flags.ignoreBlanks = false) (n : Nat) (cs : List Char) :
    Kept tail (hexDigits flags n cs) (hexDigits flags n (cs ++ ')' :: tail)) := by
  induction n generalizing cs with
  | zero =>
    simp only [hexDigits]
    exact .ok [] cs
  | succ n ih =>
    simp only [hexDigits, skipBlanks_of_false hb]
    cases cs with
    | nil => exact .error _ _
    | cons c cs =>
      simp only [List.cons_append]
      cases hexValue? c with
      | none => exact .error _ _
      | some d => exact (ih cs).map (d :: ·)

theorem kept_bracedHexDigits (hb : flags.ignoreBlanks = false) (cs : List Char) :
    Kept tail (bracedHexDigits flags cs) (bracedHexDigits flags (cs ++ ')' :: tail)) := by
  unfold bracedHexDigits
  simp only [spanSkipping_of_false hb]
  cases hd : cs.dropWhile fun c ↦ (hexValue? c).isSome with
  | nil => exact .error _ _
  | cons c rest =>
    obtain ⟨htake, hdrop⟩ := span_append hd (')' :: tail)
    rw [htake, hdrop]
    dsimp only
    split_ifs
    · exact .ok _ rest
    · exact .error _ _

theorem kept_hexadecimal (hb : flags.ignoreBlanks = false) (width : Nat) (cs : List Char) :
    Kept tail (hexadecimal flags width cs) (hexadecimal flags width (cs ++ ')' :: tail)) := by
  unfold hexadecimal
  simp only [skipBlanks_of_false hb]
  cases cs with
  | nil => exact .error _ _
  | cons c rest =>
    simp only [List.cons_append]
    split_ifs with hc
    · refine (kept_bracedHexDigits hb rest).bind fun digits cs ↦ ?_
      dsimp only
      split_ifs
      · exact .error _ _
      · exact .bind_ok id (charOfHex digits) cs
    · refine (kept_hexDigits hb width (c :: rest)).bind fun digits cs ↦ ?_
      exact .bind_ok id (charOfHex digits) cs

theorem kept_decimal (hb : flags.ignoreBlanks = false) (cs : List Char) :
    Kept tail (decimal flags cs) (decimal flags (cs ++ ')' :: tail)) := by
  have hblank : Unicode.isBlank ')' = false := by decide
  have hdigit : Char.isDigit ')' = false := by decide
  unfold decimal
  simp only [skipBlanks_of_false hb, spanSkipping_of_false hb, (span_bracket hblank tail _).2,
    span_bracket hdigit]
  split_ifs
  · exact .ok none _
  · exact .ok _ _
  · exact .error _ _

theorem kept_propertyClass (hb : flags.ignoreBlanks = false) (negated : Bool) (cs : List Char) :
    Kept tail (propertyClass flags negated cs)
      (propertyClass flags negated (cs ++ ')' :: tail)) := by
  unfold propertyClass
  simp only [skipBlanks_of_false hb, spanSkipping_of_false hb]
  cases cs with
  | nil => exact .error _ _
  | cons c rest =>
    simp only [List.cons_append]
    cases flags.unicode with
    | false => exact .error _ _
    | true =>
      simp only [Bool.not_true, if_neg Bool.false_ne_true]
      by_cases hc : c = '\x7b'
      · simp only [if_pos hc]
        cases hd : rest.dropWhile (· != '\x7d') with
        | nil => exact .error _ _
        | cons d rest' =>
          obtain ⟨htake, hdrop⟩ := span_append hd (')' :: tail)
          rw [htake, hdrop]
          dsimp only
          cases bracedProperty (rest.takeWhile (· != '\x7d')) with
          | error e => exact .error _ _
          | ok found => exact .bind_ok id _ rest'
      · simp only [if_neg hc]
        cases CharSet.ofPropertyName? [c] none with
        | none => exact .error _ _
        | some members => exact .bind_ok id _ rest

theorem kept_wordBoundary (hb : flags.ignoreBlanks = false) (cs : List Char) :
    Kept tail (wordBoundary flags cs) (wordBoundary flags (cs ++ ')' :: tail)) := by
  cases cs with
  | nil => exact .ok _ []
  | cons c rest =>
    by_cases hc : c = '\x7b'
    · subst hc
      simp only [List.cons_append, wordBoundary, skipBlanks_of_false hb, spanSkipping_of_false hb]
      cases rest with
      | nil => exact .error _ _
      | cons c rest =>
        simp only [List.cons_append]
        split_ifs
        · exact .ok _ ('\x7b' :: c :: rest)
        · cases hd : (c :: rest).dropWhile fun c ↦ c.isAlpha || c == '-' with
          | nil => exact .error _ _
          | cons d rest' =>
            obtain ⟨htake, hdrop⟩ := span_append hd (')' :: tail)
            rw [List.cons_append] at htake hdrop
            rw [htake, hdrop]
            dsimp only
            split_ifs
            · exact .error _ _
            · split
              case h_5 => exact .error _ _
              all_goals exact .ok _ rest'
    · rw [List.cons_append, wordBoundary_of_ne hc, wordBoundary_of_ne hc]
      exact .ok _ (c :: rest)

theorem head?_append_bracket {c : Char} (hc : c ≠ ')') (tail cs : List Char) :
    (cs ++ ')' :: tail).head? = some c ↔ cs.head? = some c := by
  cases cs with
  | nil => simp [hc.symm]
  | cons d cs => rfl

theorem kept_escape (hb : flags.ignoreBlanks = false) (cs : List Char) :
    Kept tail (escape flags cs) (escape flags (cs ++ ')' :: tail)) := by
  cases cs with
  | nil => exact .error _ _
  | cons c rest =>
    simp only [List.cons_append, escape]
    split
    case h_1 =>
      have hhead : ((rest ++ ')' :: tail).head? != some '\x7b') = (rest.head? != some '\x7b') := by
        cases rest <;> rfl
      rw [hhead]
      refine (kept_hexadecimal hb 2 rest).bind fun c cs ↦ ?_
      dsimp only
      split_ifs
      · exact .error _ _
      · exact .ok _ cs
    case h_2 | h_3 => exact (kept_hexadecimal hb _ rest).map Atom.literal
    case h_4 | h_5 => exact (kept_propertyClass hb _ rest).map Atom.set
    case h_6 | h_7 | h_8 | h_9 | h_10 | h_11 => exact .bind_ok Atom.set _ rest
    case h_20 => exact (kept_wordBoundary hb rest).map Atom.look
    case h_24 =>
      split
      · exact .ok _ rest
      · exact .error _ _
    all_goals exact .ok _ rest

theorem kept_leadingMembers (hb : flags.ignoreBlanks = false) (frame : ClassFrame)
    (cs : List Char) :
    Kept tail (leadingMembers flags frame cs)
      (leadingMembers flags frame (cs ++ ')' :: tail)) := by
  unfold leadingMembers
  simp only [spanSkipping_of_false hb]
  cases hd : cs.dropWhile (· == '-') with
  | nil => exact .error _ _
  | cons c rest =>
    obtain ⟨htake, hdrop⟩ := span_append hd (')' :: tail)
    rw [htake, hdrop]
    dsimp only
    split_ifs
    · exact .ok _ rest
    · exact .ok _ (c :: rest)

theorem kept_openClass (hb : flags.ignoreBlanks = false) (cs : List Char) :
    Kept tail (openClass flags cs) (openClass flags (cs ++ ')' :: tail)) := by
  unfold openClass
  simp only [skipBlanks_of_false hb]
  cases cs with
  | nil => exact .error _ _
  | cons c cs =>
    simp only [List.cons_append]
    split_ifs
    · exact kept_leadingMembers hb _ cs
    · exact kept_leadingMembers hb _ (c :: cs)

theorem ofClassName?_eq_none {name : List Char} (h : ')' ∈ name) :
    CharSet.ofClassName? (String.ofList name) = none := by
  unfold CharSet.ofClassName?
  split
  case h_15 => rfl
  all_goals
    next he =>
      have hname := congrArg String.toList he
      rw [String.toList_ofList] at hname
      rw [hname] at h
      revert h
      decide

theorem mem_of_splitAtChar?_bracket {stop : Char} (hs : stop ≠ ')')
    (hn : splitAtChar? stop cs = none) {before after : List Char}
    (h : splitAtChar? stop (cs ++ ')' :: tail) = some (before, after)) : ')' ∈ before := by
  unfold splitAtChar? at hn h
  have hd : cs.dropWhile (· != stop) = [] := by
    cases hd : cs.dropWhile (· != stop) with
    | nil => rfl
    | cons c rest =>
      rw [hd] at hn
      cases hn
  have hpos : ∀ c ∈ cs, (c != stop) = true := List.dropWhile_eq_nil_iff.mp hd
  have hstop : (')' != stop) = true := bne_iff_ne.mpr hs.symm
  rw [List.takeWhile_append_of_pos hpos, List.takeWhile_cons_of_pos (p := (· != stop)) hstop] at h
  split at h
  · cases h
  · cases h
    simp

theorem classOfName?_bracket (flags : Flags) (negated : Bool) (tail cs : List Char) :
    classOfName? flags negated (cs ++ ')' :: tail) =
      (classOfName? flags negated cs).map fun r ↦ (r.1, r.2 ++ ')' :: tail) := by
  unfold classOfName?
  cases hs : splitAtChar? ':' cs with
  | some found =>
    obtain ⟨name, rest⟩ := found
    rw [splitAtChar?_eq_some_append hs]
    cases rest with
    | nil => rfl
    | cons c rest =>
      simp only [List.cons_append]
      split_ifs
      · rw [Option.map_map]
        rfl
      · rfl
  | none =>
    cases hs' : splitAtChar? ':' (cs ++ ')' :: tail) with
    | none => rfl
    | some found =>
      obtain ⟨name, rest⟩ := found
      have hname := ofClassName?_eq_none (mem_of_splitAtChar?_bracket (by decide) hs hs')
      cases rest with
      | nil => rfl
      | cons c rest =>
        dsimp only
        rw [hname]
        split_ifs <;> rfl

theorem namedClass?_bracket (flags : Flags) (tail cs : List Char) :
    namedClass? flags (cs ++ ')' :: tail) =
      (namedClass? flags cs).map fun r ↦ (r.1, r.2 ++ ')' :: tail) := by
  match cs with
  | [] => rfl
  | [c] =>
    by_cases hc : c = ':'
    · subst hc
      exact classOfName?_bracket flags false tail []
    · simp [namedClass?, hc]
  | c :: d :: rest =>
    by_cases hc : c = ':'
    · subst hc
      by_cases hd : d = '^'
      · subst hd
        exact classOfName?_bracket flags true tail rest
      · simpa [namedClass?, hd] using classOfName?_bracket flags false tail (d :: rest)
    · simp [namedClass?, hc]

theorem kept_classAtom (hb : flags.ignoreBlanks = false) (cs : List Char) :
    Kept tail (classAtom flags cs) (classAtom flags (cs ++ ')' :: tail)) := by
  cases cs with
  | nil => exact .error _ _
  | cons c cs =>
    simp only [List.cons_append, classAtom]
    split_ifs
    · exact kept_escape hb cs
    · exact .ok _ cs

theorem kept_classRange (hb : flags.ignoreBlanks = false) (cs : List Char) :
    Kept tail (classRange flags cs) (classRange flags (cs ++ ')' :: tail)) := by
  unfold classRange
  refine (kept_classAtom hb cs).bind fun first cs ↦ ?_
  simp only [skipBlanks_of_false hb]
  cases cs with
  | nil => exact .error _ _
  | cons c after =>
    simp only [List.cons_append]
    split_ifs
    · exact .bind_ok id _ (c :: after)
    · cases after with
      | nil => exact .error _ _
      | cons d after =>
        simp only [List.cons_append]
        split_ifs
        · exact .bind_ok id _ (c :: d :: after)
        · exact (kept_classAtom hb (d :: after)).bind fun last cs ↦ .bind_ok id _ cs

theorem setOperator?_bracket (c : Char) (tail cs : List Char) :
    setOperator? c (cs ++ ')' :: tail) =
      (setOperator? c cs).map fun r ↦ (r.1, r.2 ++ ')' :: tail) := by
  cases cs with
  | nil =>
    simp only [List.nil_append, setOperator?]
    split_ifs with h
    · rfl
    · cases Decidable.not_not.mp h
      rfl
  | cons d cs =>
    simp only [List.cons_append, setOperator?]
    split_ifs
    · rfl
    · split <;> rfl

theorem kept_classStep (hb : flags.ignoreBlanks = false) (state : ClassState) (cs : List Char) :
    Kept tail (classStep flags state cs) (classStep flags state (cs ++ ')' :: tail)) := by
  cases cs with
  | nil => exact .error _ _
  | cons c cs =>
    simp only [List.cons_append, classStep]
    split_ifs
    · rw [namedClass?_bracket]
      cases namedClass? flags cs with
      | some found =>
        exact .bind_ok (fun s ↦ Sum.inl { state with frame := state.frame.add ⟨s, 0⟩ }) found.1
          found.2
      | none => exact (kept_openClass hb cs).bind fun frame cs ↦ .ok _ cs
    · cases state.outer with
      | nil => exact .bind_ok Sum.inr _ cs
      | cons frame outer =>
        exact .bind_ok (fun s ↦ Sum.inl (ClassState.mk (frame.add s) outer)) _ cs
    · rw [setOperator?_bracket]
      cases setOperator? c cs with
      | some found => exact .ok _ found.2
      | none => exact (kept_classRange hb (c :: cs)).bind fun s cs ↦ .ok _ cs

theorem kept_classLoop (hb : flags.ignoreBlanks = false) (state : ClassState) (cs : List Char) :
    Kept tail (classLoop flags state cs) (classLoop flags state (cs ++ ')' :: tail)) := by
  fun_induction classLoop flags state cs with
  | case1 => exact .error _ _
  | case2 state cs s rest hstep =>
    rw [skipBlanks_of_false hb] at hstep
    rw [classLoop, skipBlanks_of_false hb, (kept_classStep hb state cs).eq_ok hstep]
    exact .ok s rest
  | case3 state cs state' rest hstep hlt ih =>
    rw [skipBlanks_of_false hb] at hstep
    rw [classLoop.eq_def flags state (cs ++ _), skipBlanks_of_false hb,
      (kept_classStep hb state cs).eq_ok hstep]
    dsimp only
    rwa [if_pos (by simpa using hlt)]
  | case4 => exact .error _ _

theorem kept_bracketClass (hb : flags.ignoreBlanks = false) (cs : List Char) :
    Kept tail (bracketClass flags cs) (bracketClass flags (cs ++ ')' :: tail)) :=
  (kept_openClass hb cs).bind fun frame cs ↦ kept_classLoop hb ⟨frame, []⟩ cs

variable {state : State}

theorem lazyMark_bracket (tail cs : List Char) :
    lazyMark (cs ++ ')' :: tail) (cs ++ ')' :: tail) =
      ((lazyMark cs cs).1, (lazyMark cs cs).2 ++ ')' :: tail) := by
  cases cs with
  | nil => rfl
  | cons c cs =>
    by_cases hc : c = '?'
    · subst hc
      rfl
    · simp [lazyMark, hc]

theorem kept_uncounted (min : Nat) (max : Option Nat) (cs : List Char) :
    Kept tail (uncounted state min max cs) (uncounted state min max (cs ++ ')' :: tail)) := by
  simp only [uncounted, lazyMark_bracket]
  exact .bind_ok id _ _

theorem kept_roundsFrom (hb : flags.ignoreBlanks = false) (low : Nat) (cs : List Char) :
    Kept tail (roundsFrom flags low cs) (roundsFrom flags low (cs ++ ')' :: tail)) := by
  cases cs with
  | nil => exact .error _ _
  | cons c cs =>
    simp only [List.cons_append, roundsFrom, skipBlanks_of_false hb]
    split_ifs
    · exact .ok _ cs
    · exact .error _ _
    · cases cs with
      | nil => exact .error _ _
      | cons c cs =>
        simp only [List.cons_append]
        split_ifs
        · exact .ok _ cs
        · refine (kept_decimal hb (c :: cs)).bind fun high cs ↦ ?_
          cases high with
          | none => exact .error _ _
          | some high =>
            cases cs with
            | nil => exact .error _ _
            | cons c cs =>
              simp only [List.cons_append]
              split_ifs
              · exact .ok _ cs
              · exact .error _ _

theorem kept_counted (hb : state.flags.ignoreBlanks = false) (cs : List Char) :
    Kept tail (counted state cs) (counted state (cs ++ ')' :: tail)) := by
  unfold counted
  simp only [skipBlanks_of_false hb]
  cases state.takeOperand with
  | error e => exact .error _ _
  | ok operand =>
    refine (kept_decimal hb cs).bind fun low cs ↦ ?_
    cases low with
    | none => exact .error _ _
    | some low =>
      refine (kept_roundsFrom hb low cs).bind fun rounds cs ↦ ?_
      simp only [lazyMark_bracket]
      exact .bind_ok id _ _

theorem kept_groupName (cs : List Char) :
    Kept tail (groupName state cs) (groupName state (cs ++ ')' :: tail)) := by
  unfold groupName
  cases hs : splitAtChar? '>' cs with
  | none => exact .error _ _
  | some found =>
    obtain ⟨name, rest⟩ := found
    rw [splitAtChar?_eq_some_append hs]
    cases name with
    | nil => exact .error _ _
    | cons first others =>
      dsimp only
      split_ifs
      · exact .error _ _
      · exact .error _ _
      · exact .ok _ rest

theorem kept_flagLetters (flags : Flags) (value : Bool) (seen cs : List Char) :
    Kept tail (flagLetters flags value seen cs)
      (flagLetters flags value seen (cs ++ ')' :: tail)) := by
  induction cs generalizing flags value seen with
  | nil => exact .error _ _
  | cons c cs ih =>
    simp only [List.cons_append, flagLetters]
    split_ifs
    · exact .error _ _
    · exact .ok _ (c :: cs)
    · exact .error _ _
    · exact ih _ _ _
    · cases flags.set? c value with
      | none => exact .error _ _
      | some flags => exact ih _ _ _

theorem kept_flaggedGroup (cs : List Char) :
    Kept tail (flaggedGroup state cs) (flaggedGroup state (cs ++ ')' :: tail)) := by
  refine (kept_flagLetters state.flags true [] cs).bind fun r cs ↦ ?_
  cases cs with
  | nil => exact .error _ _
  | cons c cs =>
    simp only [List.cons_append]
    split_ifs
    · exact .ok _ cs
    · exact .error _ _
    · exact .ok _ cs

theorem kept_markedGroup (cs : List Char) :
    Kept tail (markedGroup state cs) (markedGroup state (cs ++ ')' :: tail)) := by
  cases cs with
  | nil => exact .error _ _
  | cons c cs =>
    simp only [List.cons_append, markedGroup, head?_append_bracket (c := '=') (by decide),
      head?_append_bracket (c := '!') (by decide), head?_append_bracket (c := '<') (by decide)]
    split_ifs with _ _ _ hc
    · exact .error _ _
    · exact .error _ _
    · exact kept_groupName cs
    · cases cs with
      | nil => cases hc.2
      | cons d cs => exact kept_groupName cs
    · exact kept_flaggedGroup (c :: cs)

theorem kept_group (hb : state.flags.ignoreBlanks = false) (cs : List Char) :
    Kept tail (group state cs) (group state (cs ++ ')' :: tail)) := by
  unfold group
  simp only [skipBlanks_of_false hb]
  cases cs with
  | nil => exact .ok _ []
  | cons c cs =>
    by_cases hc : c = '?'
    · subst hc
      exact kept_markedGroup cs
    · simpa [hc] using Kept.ok (state.openGroup state.flags) (c :: cs)

theorem kept_step (hb : state.flags.ignoreBlanks = false) (c : Char) (cs : List Char) :
    Kept tail (step state c cs) (step state c (cs ++ ')' :: tail)) := by
  unfold step
  split
  case h_1 => exact kept_group hb cs
  case h_2 => exact .bind_ok id _ cs
  case h_4 => exact (kept_bracketClass hb cs).bind fun s cs ↦ .ok _ cs
  case h_5 | h_6 | h_7 => exact kept_uncounted _ _ cs
  case h_8 => exact kept_counted hb cs
  case h_9 => exact (kept_escape hb cs).bind fun atom cs ↦ .ok _ cs
  case h_10 => exact .bind_ok (fun r ↦ state.add ⟨r, 0⟩) _ cs
  all_goals exact .ok _ cs

end TopDown.Regex.Parser
