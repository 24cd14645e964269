import Mathlib.Tactic.Common
import TopDown.Regex.Parser

namespace TopDown.Regex.Parser

variable {α β : Type} {flags : Flags} {cs cs' : List Char}

def closing : List Char := [')', '$']

/-- What is left of a text, without and with `closing` after it. A comment hides what follows. -/
inductive Longer : List Char → List Char → Prop
  | kept (cs : List Char) : Longer cs (cs ++ closing)
  | lost : Longer [] []

@[elab_as_elim]
theorem Longer.byHead {motive : (cs cs' : List Char) → Longer cs cs' → Prop}
    (lost : motive [] [] .lost) (nil : motive [] [')', '$'] (.kept []))
    (cons : ∀ c cs, motive (c :: cs) (c :: (cs ++ closing)) (.kept (c :: cs)))
    (h : Longer cs cs') : motive cs cs' h := by
  cases h with
  | lost => exact lost
  | kept =>
    cases cs with
    | nil => exact nil
    | cons c cs => exact cons c cs

theorem length_append_closing_lt_iff :
    (cs' ++ closing).length < (cs ++ closing).length ↔ cs'.length < cs.length := by
  rw [List.length_append, List.length_append, Nat.add_lt_add_iff_right]

/--
What is read off a text, without and with `closing` after it. Where only the text by itself cannot
be read, `Late` holds of what is read with `closing`.
-/
inductive Agree (Late : α → List Char → Prop) :
    Except SyntaxError (α × List Char) → Except SyntaxError (α × List Char) → Prop
  | ok (a : α) (cs : List Char) : Agree Late (.ok (a, cs)) (.ok (a, cs ++ closing))
  | error (e e' : SyntaxError) : Agree Late (.error e) (.error e')
  | late (e : SyntaxError) {a : α} {cs : List Char} (h : Late a cs) :
    Agree Late (.error e) (.ok (a, cs))

def Never (_ : α) (_ : List Char) : Prop :=
  False

namespace Agree

variable {Late : α → List Char → Prop} {Late' : β → List Char → Prop}
  {x y : Except SyntaxError (α × List Char)}

theorem bind {f g : α × List Char → Except SyntaxError (β × List Char)} (h : Agree Late x y)
    (hok : ∀ a cs, Agree Late' (f (a, cs)) (g (a, cs ++ closing)))
    (hlate : ∀ e a cs, Late a cs → Agree Late' (.error e) (g (a, cs))) :
    Agree Late' (x >>= f) (y >>= g) := by
  cases h with
  | ok a cs => exact hok a cs
  | error e e' => exact .error e e'
  | late e h => exact hlate e _ _ h

theorem bind_ok (f : β → α) (x : Except SyntaxError β) (cs : List Char) :
    Agree Late (x >>= fun b ↦ .ok (f b, cs)) (x >>= fun b ↦ .ok (f b, cs ++ closing)) := by
  cases x with
  | error e => exact .error e e
  | ok b => exact .ok (f b) cs

theorem map (f : α → β) (h : Agree Late x y) (hlate : ∀ a cs, Late a cs → Late' (f a) cs) :
    Agree Late' (x.map fun r ↦ (f r.1, r.2)) (y.map fun r ↦ (f r.1, r.2)) := by
  cases h with
  | ok a cs => exact .ok (f a) cs
  | error e e' => exact .error e e'
  | late e h => exact .late e (hlate _ _ h)

theorem mono {Late' : α → List Char → Prop} (h : Agree Late x y)
    (hlate : ∀ a cs, Late a cs → Late' a cs) : Agree Late' x y := by
  cases h with
  | ok a cs => exact .ok a cs
  | error e e' => exact .error e e'
  | late e h => exact .late e (hlate _ _ h)

end Agree

theorem longer_skipBlanksAux (comment : Bool) (cs : List Char) :
    Longer (skipBlanksAux comment cs) (skipBlanksAux comment (cs ++ closing)) := by
  induction cs generalizing comment with
  | nil =>
    cases comment with
    | true => exact .lost
    | false => exact .kept []
  | cons c cs ih =>
    cases comment with
    | true => exact ih _
    | false =>
      simp only [List.cons_append, skipBlanksAux]
      split_ifs
      · exact ih _
      · exact ih _
      · exact .kept (c :: cs)

theorem Longer.skipBlanks (h : Longer cs cs') (flags : Flags) :
    Longer (Parser.skipBlanks flags cs) (Parser.skipBlanks flags cs') := by
  unfold Parser.skipBlanks
  cases h with
  | lost => split_ifs <;> exact .lost
  | kept =>
    split_ifs
    · exact longer_skipBlanksAux false cs
    · exact .kept cs

theorem skipBlanks_cons {c : Char} (hb : Unicode.isBlank c = false) (hc : c ≠ '#')
    (cs : List Char) : skipBlanks flags (c :: cs) = c :: cs := by
  unfold skipBlanks
  split_ifs
  · simp [skipBlanksAux, hb, hc]
  · rfl

theorem skipBlanks_nil (flags : Flags) : skipBlanks flags [] = [] := by
  unfold skipBlanks
  split_ifs <;> rfl

theorem longer_span {p : Char → Bool} (hp : p ')' = false) (cs : List Char) :
    (cs ++ closing).takeWhile p = cs.takeWhile p ∧
      Longer (cs.dropWhile p) ((cs ++ closing).dropWhile p) := by
  induction cs with
  | nil => simpa [closing, hp] using Longer.kept []
  | cons c cs ih =>
    cases hc : p c with
    | true => simpa [hc] using ih
    | false => simpa [hc] using Longer.kept (c :: cs)

theorem Longer.dropWhile (h : Longer cs cs') :
    Longer (cs.dropWhile Unicode.isBlank) (cs'.dropWhile Unicode.isBlank) := by
  cases h with
  | lost => exact .lost
  | kept => exact (longer_span (by decide) cs).2

theorem longer_spanSkippingAux {p : Char → Bool} (hp : p ')' = false) (comment : Bool)
    (cs : List Char) :
    (spanSkippingAux p comment (cs ++ closing)).1 = (spanSkippingAux p comment cs).1 ∧
      Longer (spanSkippingAux p comment cs).2 (spanSkippingAux p comment (cs ++ closing)).2 := by
  induction cs generalizing comment with
  | nil =>
    cases comment with
    | true => exact ⟨rfl, .lost⟩
    | false =>
      have hb : Unicode.isBlank ')' = false := by decide
      simp only [List.nil_append, closing, spanSkippingAux, hb, hp]
      exact ⟨rfl, .kept []⟩
  | cons c cs ih =>
    cases comment with
    | true => exact ih _
    | false =>
      simp only [List.cons_append, spanSkippingAux]
      split_ifs
      · exact ih _
      · exact ih _
      · exact ⟨congrArg (c :: ·) (ih false).1, (ih false).2⟩
      · exact ⟨rfl, .kept (c :: cs)⟩

theorem Longer.spanSkipping {p : Char → Bool} (hp : p ')' = false) (h : Longer cs cs')
    (flags : Flags) : ∃ taken r r', Parser.spanSkipping flags p cs = (taken, r) ∧
      Parser.spanSkipping flags p cs' = (taken, r') ∧ Longer r r' := by
  cases h with
  | lost => cases hb : flags.ignoreBlanks <;> simp [Parser.spanSkipping, hb, spanSkippingAux, lost]
  | kept =>
    unfold Parser.spanSkipping
    split_ifs
    · obtain ⟨htaken, hrest⟩ := longer_spanSkippingAux hp false cs
      exact ⟨_, _, (spanSkippingAux p false (cs ++ closing)).2, rfl, Prod.ext htaken rfl, hrest⟩
    · obtain ⟨htaken, hrest⟩ := longer_span hp cs
      exact ⟨_, _, (cs ++ closing).dropWhile p, rfl, Prod.ext htaken rfl, hrest⟩

theorem agree_hexDigits (n : Nat) (cs : List Char) :
    Agree Never (hexDigits flags n cs) (hexDigits flags n (cs ++ closing)) := by
  induction n generalizing cs with
  | zero =>
    simp only [hexDigits]
    exact .ok [] cs
  | succ n ih =>
    have hs := (Longer.kept cs).skipBlanks flags
    simp only [hexDigits]
    generalize skipBlanks flags cs = r, skipBlanks flags (cs ++ closing) = r' at hs ⊢
    cases hs using Longer.byHead with
    | lost => exact .error _ _
    | nil => exact .error _ _
    | cons c rest =>
      dsimp only
      cases hexValue? c with
      | none => exact .error _ _
      | some d => exact (ih rest).map (d :: ·) fun _ _ ↦ False.elim

theorem agree_bracedHexDigits (cs : List Char) :
    Agree Never (bracedHexDigits flags cs) (bracedHexDigits flags (cs ++ closing)) := by
  obtain ⟨digits, r, r', hr, hr', hl⟩ :=
    (Longer.kept cs).spanSkipping (p := fun c ↦ (hexValue? c).isSome) (by decide) flags
  rw [bracedHexDigits, bracedHexDigits, hr, hr']
  cases hl using Longer.byHead with
  | lost => exact .error _ _
  | nil => exact .error _ _
  | cons c r =>
    dsimp only
    split_ifs
    · exact .ok _ r
    · exact .error _ _

theorem agree_hexadecimal (width : Nat) (cs : List Char) :
    Agree Never (hexadecimal flags (width + 1) cs)
      (hexadecimal flags (width + 1) (cs ++ closing)) := by
  have hs := (Longer.kept cs).skipBlanks flags
  unfold hexadecimal
  generalize skipBlanks flags cs = r, skipBlanks flags (cs ++ closing) = r' at hs ⊢
  cases hs using Longer.byHead with
  | lost => exact .error _ _
  | nil =>
    have hbad : hexDigits flags (width + 1) [')', '$'] = .error .badHexadecimal := by
      rw [hexDigits, skipBlanks_cons (by decide) (by decide)]
      rfl
    dsimp only
    rw [hbad]
    exact .error _ _
  | cons c rest =>
    dsimp only
    split_ifs with hc
    · refine (agree_bracedHexDigits rest).bind (fun digits cs ↦ ?_) fun _ _ _ ↦ False.elim
      dsimp only
      split_ifs
      · exact .error _ _
      · exact .bind_ok id (charOfHex digits) cs
    · refine (agree_hexDigits (width + 1) (c :: rest)).bind (fun digits cs ↦ ?_)
        fun _ _ _ ↦ False.elim
      exact .bind_ok id (charOfHex digits) cs

/-- A number is read alike, but what is left of the text may be hidden by a comment. -/
theorem decimal_longer (flags : Flags) (h : Longer cs cs') :
    (∃ e, decimal flags cs = .error e ∧ decimal flags cs' = .error e) ∨
      ∃ low r r', decimal flags cs = .ok (low, r) ∧ decimal flags cs' = .ok (low, r') ∧
        Longer r r' := by
  obtain ⟨ds, r, r', hr, hr', hl⟩ :=
    h.dropWhile.spanSkipping (p := Char.isDigit) (by decide) flags
  have hrest := hl.dropWhile.skipBlanks flags
  unfold decimal
  simp only [hr, hr']
  split_ifs
  · exact .inr ⟨none, _, _, rfl, rfl, hrest⟩
  · exact .inr ⟨_, _, _, rfl, rfl, hrest⟩
  · exact .inl ⟨_, rfl, rfl⟩

theorem splitAtChar?_cons (stop c : Char) (cs : List Char) :
    splitAtChar? stop (c :: cs) =
      if c = stop then some ([], cs)
      else (splitAtChar? stop cs).map fun r ↦ (c :: r.1, r.2) := by
  unfold splitAtChar?
  by_cases hc : c = stop
  · simp [hc]
  · have hne : (c != stop) = true := bne_iff_ne.mpr hc
    simp only [List.dropWhile_cons, List.takeWhile_cons, hne, if_true, if_neg hc]
    cases cs.dropWhile (· != stop) <;> rfl

theorem splitAtChar?_append (stop : Char) (hs : stop ∉ closing) (cs : List Char) :
    splitAtChar? stop (cs ++ closing) =
      (splitAtChar? stop cs).map fun r ↦ (r.1, r.2 ++ closing) := by
  induction cs with
  | nil =>
    have hd : closing.dropWhile (· != stop) = [] := by
      simp only [closing, List.mem_cons, not_or] at hs
      simp [closing, Ne.symm hs.1, Ne.symm hs.2.1]
    rw [List.nil_append, splitAtChar?, hd]
    rfl
  | cons c cs ih =>
    rw [List.cons_append, splitAtChar?_cons, splitAtChar?_cons, ih]
    split_ifs
    · rfl
    · rw [Option.map_map, Option.map_map]
      rfl

/-- The text ends before the character that ends the span, or the span is the same. -/
def SameSpan (x y : List Char × List Char) : Prop :=
  x.2 = [] ∧ y.2 = [] ∨ ∃ taken c rest, x = (taken, c :: rest) ∧ y = (taken, c :: (rest ++ closing))

theorem SameSpan.cons {x y : List Char × List Char} (h : SameSpan x y) (c : Char) :
    SameSpan (c :: x.1, x.2) (c :: y.1, y.2) := by
  obtain h | ⟨taken, d, rest, rfl, rfl⟩ := h
  · exact .inl h
  · exact .inr ⟨c :: taken, d, rest, rfl, rfl⟩

theorem sameSpan_spanSkippingAux {p : Char → Bool} (hp : p ')' = true) (hp' : p '$' = true)
    (comment : Bool) (cs : List Char) :
    SameSpan (spanSkippingAux p comment cs) (spanSkippingAux p comment (cs ++ closing)) := by
  induction cs generalizing comment with
  | nil =>
    cases comment with
    | true => exact .inl ⟨rfl, rfl⟩
    | false =>
      refine .inl ⟨rfl, ?_⟩
      have hb : Unicode.isBlank ')' = false ∧ Unicode.isBlank '$' = false := by decide
      simp [closing, spanSkippingAux, hb, hp, hp']
  | cons c cs ih =>
    cases comment with
    | true => exact ih _
    | false =>
      simp only [List.cons_append, spanSkippingAux]
      split_ifs
      · exact ih _
      · exact ih _
      · exact (ih false).cons c
      · exact .inr ⟨[], c, cs, rfl, rfl⟩

theorem sameSpan_spanSkipping {p : Char → Bool} (hp : p ')' = true) (hp' : p '$' = true)
    (flags : Flags) (cs : List Char) :
    SameSpan (spanSkipping flags p cs) (spanSkipping flags p (cs ++ closing)) := by
  unfold spanSkipping
  split_ifs
  · exact sameSpan_spanSkippingAux hp hp' false cs
  · induction cs with
    | nil => exact .inl ⟨rfl, by simp [closing, hp, hp']⟩
    | cons c cs ih =>
      cases hc : p c with
      | true => simpa [hc] using ih.cons c
      | false => exact .inr ⟨[], c, cs, by simp [hc], by simp [hc]⟩

theorem ofPropertyName?_bracket : CharSet.ofPropertyName? [')'] none = none := by
  have hname : CharSet.plainName [')'] = ")" := by simp [CharSet.plainName, CharSet.bareName]
  rw [CharSet.ofPropertyName?, hname]
  decide +kernel

theorem agree_propertyClass (negated : Bool) (cs : List Char) :
    Agree Never (propertyClass flags negated cs)
      (propertyClass flags negated (cs ++ closing)) := by
  have hs := (Longer.kept cs).skipBlanks flags
  unfold propertyClass
  generalize skipBlanks flags cs = r, skipBlanks flags (cs ++ closing) = r' at hs ⊢
  cases hs using Longer.byHead with
  | lost => exact .error _ _
  | nil =>
    simp only [ofPropertyName?_bracket]
    cases flags.unicode with
    | false => exact .error _ _
    | true => exact .error _ _
  | cons c rest =>
    dsimp only
    cases flags.unicode with
    | false => exact .error _ _
    | true =>
      simp only [Bool.not_true, if_neg Bool.false_ne_true]
      by_cases hc : c = '\x7b'
      · simp only [if_pos hc]
        have hspan :=
          sameSpan_spanSkipping (p := fun c ↦ c != '\x7d') (by decide) (by decide) flags rest
        generalize spanSkipping flags (fun c ↦ c != '\x7d') rest = x,
          spanSkipping flags (fun c ↦ c != '\x7d') (rest ++ closing) = y at hspan ⊢
        obtain ⟨hx, hy⟩ | ⟨name, c, rest, rfl, rfl⟩ := hspan
        · obtain ⟨name, r⟩ := x
          obtain ⟨name', r'⟩ := y
          cases hx
          cases hy
          exact .error _ _
        · dsimp only
          cases bracedProperty name with
          | error e => exact .error _ _
          | ok found => exact .bind_ok id _ rest
      · simp only [if_neg hc]
        cases CharSet.ofPropertyName? [c] none with
        | none => exact .error _ _
        | some members => exact .bind_ok id _ rest

/-- A brace after which only blanks are left. -/
def Stalled (flags : Flags) (cs : List Char) : Prop :=
  ∃ rest, cs = '\x7b' :: rest ∧ skipBlanks flags rest = closing

theorem wordBoundary_of_ne {c : Char} (hc : c ≠ '\x7b') (cs : List Char) :
    wordBoundary flags (c :: cs) = .ok (.wordBoundary, c :: cs) := by
  unfold wordBoundary
  split
  · next he =>
    cases he
    exact absurd rfl hc
  · rfl

/-- With the bracket, a brace with blanks in it is left to be read as a number of rounds. -/
theorem agree_wordBoundary (cs : List Char) :
    Agree (fun l cs ↦ l = .wordBoundary ∧ Stalled flags cs) (wordBoundary flags cs)
      (wordBoundary flags (cs ++ closing)) := by
  cases cs with
  | nil => exact .ok _ []
  | cons c rest =>
  by_cases hc : c = '\x7b'
  · subst hc
    simp only [List.cons_append, wordBoundary]
    have hs := (Longer.kept rest).skipBlanks flags
    generalize hr : skipBlanks flags rest = r at hs ⊢
    generalize hr' : skipBlanks flags (rest ++ closing) = r' at hs ⊢
    cases hs using Longer.byHead with
    | lost => exact .error _ _
    | nil => exact .late _ ⟨rfl, _, rfl, hr'⟩
    | cons c r =>
      dsimp only
      split_ifs
      · exact .ok _ ('\x7b' :: rest)
      · obtain ⟨name, r, r', hn, hn', hl⟩ := (Longer.kept rest).spanSkipping
          (p := fun c ↦ c.isAlpha || c == '-') (by decide) flags
        simp only [hn, hn']
        cases hl using Longer.byHead with
        | lost => exact .error _ _
        | nil => exact .error _ _
        | cons d r =>
          dsimp only
          split_ifs
          · exact .error _ _
          · split
            case h_5 => exact .error _ _
            all_goals exact .ok _ r
  · rw [List.cons_append, wordBoundary_of_ne hc, wordBoundary_of_ne hc]
    exact .ok _ (c :: rest)

/-- The bracket is taken for an escaped character, or a brace is left that only it follows. -/
def LateEscape (flags : Flags) (atom : Atom) (cs : List Char) : Prop :=
  atom = .literal ')' ∧ cs = ['$'] ∨ atom = .look .wordBoundary ∧ Stalled flags cs

theorem agree_escape (cs : List Char) :
    Agree (LateEscape flags) (escape flags cs) (escape flags (cs ++ closing)) := by
  cases cs with
  | nil => exact .late _ (.inl ⟨rfl, rfl⟩)
  | cons c rest =>
  simp only [List.cons_append, escape]
  split
  case h_1 =>
    have hhead : ((rest ++ closing).head? != some '\x7b') = (rest.head? != some '\x7b') := by
      cases rest <;> rfl
    rw [hhead]
    refine (agree_hexadecimal 1 rest).bind (fun c cs ↦ ?_) fun _ _ _ ↦ False.elim
    dsimp only
    split_ifs
    · exact .error _ _
    · exact .ok _ cs
  case h_2 | h_3 => exact (agree_hexadecimal _ rest).map Atom.literal fun _ _ ↦ False.elim
  case h_4 | h_5 => exact (agree_propertyClass _ rest).map Atom.set fun _ _ ↦ False.elim
  case h_6 | h_7 | h_8 | h_9 | h_10 | h_11 => exact .bind_ok Atom.set _ rest
  case h_20 =>
    exact (agree_wordBoundary rest).map Atom.look fun _ _ h ↦ .inr ⟨congrArg Atom.look h.1, h.2⟩
  case h_24 =>
    split
    · exact .ok _ rest
    · exact .error _ _
  all_goals exact .ok _ rest

end TopDown.Regex.Parser
