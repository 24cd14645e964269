import TopDown.Proofs.JsonText

namespace TopDown.Json

variable {c : Char} {n : Nat} {s s' body text rest rest' digits : List Char}

def IsHexDigit (n : Nat) (c : Char) : Prop :=
  "0123456789abcdef".toList[n]? = some c ∨ "0123456789ABCDEF".toList[n]? = some c

inductive HexText : Nat → List Char → Prop
  | mk {i j k l : Nat} {w x y z : Char} (hi : IsHexDigit i w) (hj : IsHexDigit j x)
      (hk : IsHexDigit k y) (hl : IsHexDigit l z) :
      HexText (16 * (16 * (16 * i + j) + k) + l) [w, x, y, z]

def shortEscapes : List (Char × Char) :=
  [('"', '"'), ('\\', '\\'), ('/', '/'), ('b', '\x08'), ('f', '\x0c'), ('n', '\n'), ('r', '\r'),
    ('t', '\t')]

def Unescaped (c : Char) : Prop :=
  ' ' ≤ c ∧ c ≠ '"' ∧ c ≠ '\\'

instance : DecidablePred Unescaped := fun c ↦
  inferInstanceAs (Decidable (' ' ≤ c ∧ c ≠ '"' ∧ c ≠ '\\'))

/-- The texts for one character, of which those beyond 16 bits may be two surrogates. -/
inductive CharText : Char → List Char → Prop
  | plain {c : Char} (h : Unescaped c) : CharText c [c]
  | short {e c : Char} (h : (e, c) ∈ shortEscapes) : CharText c ['\\', e]
  | unit {c : Char} {digits : List Char} (h : HexText c.toNat digits) :
      CharText c ('\\' :: 'u' :: digits)
  | pair {c : Char} {i j : Nat} {high low : List Char}
      (hc : c.toNat = 0x10000 + 0x400 * i + j) (hi : i < 0x400) (hj : j < 0x400)
      (hhigh : HexText (0xd800 + i) high) (hlow : HexText (0xdc00 + j) low) :
      CharText c ('\\' :: 'u' :: high ++ '\\' :: 'u' :: low)

inductive Spells : List Char → List Char → Prop
  | nil : Spells [] []
  | cons {c : Char} {s text body : List Char} (h : CharText c text) (rest : Spells s body) :
      Spells (c :: s) (text ++ body)

/-- What JSON allows between quotation marks, with surrogates that need not come in pairs. -/
inductive StringBody : List Char → Prop
  | nil : StringBody []
  | plain {c : Char} {body : List Char} (h : Unescaped c) (rest : StringBody body) :
      StringBody (c :: body)
  | short {e c : Char} {body : List Char} (h : (e, c) ∈ shortEscapes) (rest : StringBody body) :
      StringBody ('\\' :: e :: body)
  | unit {n : Nat} {digits body : List Char} (h : HexText n digits) (rest : StringBody body) :
      StringBody ('\\' :: 'u' :: (digits ++ body))

theorem Spells.of_unescaped (h : s.all (Unescaped ·) = true) : Spells s s := by
  induction s with
  | nil => exact .nil
  | cons c s ih =>
    rw [List.all_cons, Bool.and_eq_true, decide_eq_true_iff] at h
    exact .cons (.plain h.1) (ih h.2)

theorem Spells.stringBody (h : Spells s body) : StringBody body := by
  induction h with
  | nil => exact .nil
  | cons hc _ ih =>
    cases hc with
    | plain h => exact .plain h ih
    | short h => exact .short h ih
    | unit h => exact .unit h ih
    | pair _ _ _ hhigh hlow =>
      rw [List.append_assoc]
      exact .unit hhigh (.unit hlow ih)

theorem hexValue?_of_isHexDigit (h : IsHexDigit n c) : hexValue? c = some n := by
  have hlower : ∀ i : Fin 16, hexValue? "0123456789abcdef".toList[i] = some i.val := by decide
  have hupper : ∀ i : Fin 16, hexValue? "0123456789ABCDEF".toList[i] = some i.val := by decide
  rcases h with h | h
  · obtain ⟨hn, rfl⟩ := List.getElem?_eq_some_iff.mp h
    exact hlower ⟨n, hn⟩
  · obtain ⟨hn, rfl⟩ := List.getElem?_eq_some_iff.mp h
    exact hupper ⟨n, hn⟩

theorem hexUnit_append (h : HexText n digits) (rest : List Char) :
    hexUnit (digits ++ rest) = .ok (n, rest) := by
  obtain ⟨hi, hj, hk, hl⟩ := h
  simp only [List.cons_append, List.nil_append, hexUnit, hexValue?_of_isHexDigit hi,
    hexValue?_of_isHexDigit hj, hexValue?_of_isHexDigit hk, hexValue?_of_isHexDigit hl]

theorem escape_short {e : Char} (h : (e, c) ∈ shortEscapes) (rest : List Char) :
    escape (e :: rest) = .ok (c, rest) := by
  simp only [shortEscapes, List.mem_cons, Prod.mk.injEq, List.not_mem_nil, or_false] at h
  rcases h with ⟨rfl, rfl⟩ | ⟨rfl, rfl⟩ | ⟨rfl, rfl⟩ | ⟨rfl, rfl⟩ | ⟨rfl, rfl⟩ | ⟨rfl, rfl⟩ |
    ⟨rfl, rfl⟩ | ⟨rfl, rfl⟩ <;> rfl

theorem stringChar_plain (h : Unescaped c) (rest : List Char) :
    stringChar (c :: rest) = .ok (some c, rest) := by
  obtain ⟨hc, hquote, hbackslash⟩ := h
  unfold stringChar
  split <;> simp_all

theorem not_isSurrogate_toNat (c : Char) :
    isLowSurrogate c.toNat = false ∧ isHighSurrogate c.toNat = false := by
  have hc : c.toNat < 0xd800 ∨ 0xdfff < c.toNat ∧ c.toNat < 0x110000 := c.valid
  simp only [isLowSurrogate, isHighSurrogate, Bool.and_eq_false_iff, decide_eq_false_iff_not]
  omega

theorem unicodeEscape_unit (h : HexText c.toNat digits) (rest : List Char) :
    unicodeEscape (digits ++ rest) = .ok (c, rest) := by
  simp [unicodeEscape, hexUnit_append h, not_isSurrogate_toNat c]

theorem unicodeEscape_pair {i j : Nat} {high low : List Char}
    (hc : c.toNat = 0x10000 + 0x400 * i + j) (hi : i < 0x400) (hj : j < 0x400)
    (hhigh : HexText (0xd800 + i) high) (hlow : HexText (0xdc00 + j) low) (rest : List Char) :
    unicodeEscape (high ++ '\\' :: 'u' :: (low ++ rest)) = .ok (c, rest) := by
  have hfirst : isLowSurrogate (0xd800 + i) = false ∧ isHighSurrogate (0xd800 + i) = true := by
    simp only [isLowSurrogate, isHighSurrogate, Bool.and_eq_false_iff, Bool.and_eq_true,
      decide_eq_false_iff_not, decide_eq_true_eq]
    omega
  have hsecond : isLowSurrogate (0xdc00 + j) = true := by
    simp only [isLowSurrogate, Bool.and_eq_true, decide_eq_true_eq]
    omega
  have hexpect : expect ['\\', 'u'] ('\\' :: 'u' :: (low ++ rest)) = .ok (low ++ rest) := rfl
  have hn : 0x10000 + 0x400 * (0xd800 + i - 0xd800) + (0xdc00 + j - 0xdc00) = c.toNat := by omega
  simp only [unicodeEscape, hexUnit_append hhigh, hexUnit_append hlow, hfirst, hsecond, hexpect, hn,
    Char.ofNat_toNat, Bool.false_eq_true, if_false, Bool.not_true, if_true]

theorem stringChar_backslash (cs : List Char) :
    stringChar ('\\' :: cs) = (escape cs).map fun r ↦ (some r.1, r.2) := rfl

theorem stringChar_of_charText (h : CharText c text) (rest : List Char) :
    stringChar (text ++ rest) = .ok (some c, rest) := by
  cases h with
  | plain h => exact stringChar_plain h rest
  | short h =>
    rw [List.cons_append, stringChar_backslash, List.cons_append, escape_short h]
    rfl
  | unit h =>
    rw [List.cons_append, stringChar_backslash, List.cons_append, escape, unicodeEscape_unit h]
    rfl
  | pair hc hi hj hhigh hlow =>
    rw [List.append_assoc, List.cons_append, stringChar_backslash, List.cons_append, escape,
      List.cons_append, List.cons_append, unicodeEscape_pair hc hi hj hhigh hlow]
    rfl

/-- The reader takes every spelling of a string for the string. -/
theorem stringTail_of_spells (h : Spells s body) (rest : List Char) :
    stringTail (body ++ '"' :: rest) = .ok (s, rest) := by
  induction h with
  | nil => exact stringTail_of_none rfl
  | cons h _ ih =>
    rw [List.append_assoc, stringTail_of_some (stringChar_of_charText h _), ih]
    rfl

theorem Spells.unique (h : Spells s body) (h' : Spells s' body) : s' = s := by
  have hr := stringTail_of_spells h []
  cases hr.symm.trans (stringTail_of_spells h' [])
  rfl

theorem isHexDigit_lt (h : IsHexDigit n c) : n < 16 := by
  rcases h with h | h
  · exact (List.getElem?_eq_some_iff.mp h).1
  · exact (List.getElem?_eq_some_iff.mp h).1

theorem HexText.lt (h : HexText n digits) : n < 0x10000 := by
  obtain ⟨hi, hj, hk, hl⟩ := h
  have hi := isHexDigit_lt hi
  have hj := isHexDigit_lt hj
  have hk := isHexDigit_lt hk
  have hl := isHexDigit_lt hl
  omega

theorem toNat_ofNat (h : n.isValidChar) : (Char.ofNat n).toNat = n := by
  rw [Char.ofNat, dif_pos h]
  rfl

theorem exists_of_isHighSurrogate (h : isHighSurrogate n = true) :
    ∃ i < 0x400, n = 0xd800 + i := by
  simp only [isHighSurrogate, Bool.and_eq_true, decide_eq_true_eq] at h
  exact ⟨n - 0xd800, by omega, by omega⟩

theorem exists_of_isLowSurrogate (h : isLowSurrogate n = true) :
    ∃ j < 0x400, n = 0xdc00 + j := by
  simp only [isLowSurrogate, Bool.and_eq_true, decide_eq_true_eq] at h
  exact ⟨n - 0xdc00, by omega, by omega⟩

theorem exists_pair_of_unicodeEscape (h : HexText n digits) (hb : StringBody body)
    (hhigh : isHighSurrogate n = true)
    (he : unicodeEscape (digits ++ (body ++ '"' :: rest)) = .ok (c, rest')) :
    ∃ text body', '\\' :: 'u' :: (digits ++ body) = text ++ body' ∧ CharText c text ∧
      StringBody body' ∧ rest' = body' ++ '"' :: rest := by
  have hlow : isLowSurrogate n = false := by
    simp only [isHighSurrogate, isLowSurrogate, Bool.and_eq_true, Bool.and_eq_false_iff,
      decide_eq_true_eq, decide_eq_false_iff_not] at hhigh ⊢
    omega
  simp only [unicodeEscape, hexUnit_append h, hlow, hhigh] at he
  cases hb with
  | nil => cases he
  | plain hc hb =>
    simp only [List.cons_append, expect, if_neg (Ne.symm hc.2.2)] at he
    cases he
  | @short e _ _ hmem hb =>
    have hne : 'u' ≠ e := by
      intro hu
      subst hu
      simp [shortEscapes] at hmem
    simp only [List.cons_append, expect, if_true, if_neg hne] at he
    cases he
  | @unit m digits' body' hdigits hb =>
    have hexpect : expect ['\\', 'u'] ('\\' :: 'u' :: (digits' ++ body') ++ '"' :: rest) =
      .ok (digits' ++ (body' ++ '"' :: rest)) := by
      rw [← List.append_assoc]
      rfl
    cases hsecond : isLowSurrogate m with
    | false =>
      simp only [hexpect, hexUnit_append hdigits, hsecond] at he
      cases he
    | true =>
      simp only [hexpect, hexUnit_append hdigits, hsecond, Bool.false_eq_true, if_false,
        Bool.not_true, if_true, Except.ok.injEq, Prod.mk.injEq] at he
      obtain ⟨hc, rfl⟩ := he
      obtain ⟨i, hi, rfl⟩ := exists_of_isHighSurrogate hhigh
      obtain ⟨j, hj, rfl⟩ := exists_of_isLowSurrogate hsecond
      refine ⟨'\\' :: 'u' :: digits ++ '\\' :: 'u' :: digits', body', ?_, ?_, hb, rfl⟩
      · simp
      · refine .pair ?_ hi hj h hdigits
        have hvalid : Nat.isValidChar
            (0x10000 + 0x400 * (0xd800 + i - 0xd800) + (0xdc00 + j - 0xdc00)) := by
          simp only [Nat.isValidChar]
          omega
        rw [← hc, toNat_ofNat hvalid]
        omega

theorem exists_of_unicodeEscape (h : HexText n digits) (hb : StringBody body)
    (he : unicodeEscape (digits ++ (body ++ '"' :: rest)) = .ok (c, rest')) :
    ∃ text body', '\\' :: 'u' :: (digits ++ body) = text ++ body' ∧ CharText c text ∧
      StringBody body' ∧ rest' = body' ++ '"' :: rest := by
  cases hhigh : isHighSurrogate n with
  | true => exact exists_pair_of_unicodeEscape h hb hhigh he
  | false =>
    simp only [unicodeEscape, hexUnit_append h, hhigh] at he
    cases hlow : isLowSurrogate n with
    | true =>
      rw [hlow] at he
      cases he
    | false =>
      rw [hlow] at he
      cases he
      have hvalid : n.isValidChar := by
        have hlt := h.lt
        simp only [isLowSurrogate, isHighSurrogate, Bool.and_eq_false_iff,
          decide_eq_false_iff_not] at hlow hhigh
        simp only [Nat.isValidChar]
        omega
      refine ⟨'\\' :: 'u' :: digits, body, rfl, .unit ?_, hb, rfl⟩
      rwa [toNat_ofNat hvalid]

theorem exists_of_stringChar (hb : StringBody body) {c? : Option Char}
    (h : stringChar (body ++ '"' :: rest) = .ok (c?, rest')) :
    (c? = none ∧ body = [] ∧ rest' = rest) ∨
      ∃ c text body', c? = some c ∧ body = text ++ body' ∧ CharText c text ∧ StringBody body' ∧
        rest' = body' ++ '"' :: rest := by
  cases hb with
  | nil =>
    cases h
    exact .inl ⟨rfl, rfl, rfl⟩
  | plain hc hb =>
    rw [List.cons_append, stringChar_plain hc] at h
    cases h
    exact .inr ⟨_, [_], _, rfl, rfl, .plain hc, hb, rfl⟩
  | short he hb =>
    rw [List.cons_append, List.cons_append, stringChar_backslash, escape_short he] at h
    cases h
    exact .inr ⟨_, ['\\', _], _, rfl, rfl, .short he, hb, rfl⟩
  | @unit n digits body hdigits hb =>
    rw [List.cons_append, List.cons_append, stringChar_backslash, escape, List.append_assoc] at h
    cases he : unicodeEscape (digits ++ (body ++ '"' :: rest)) with
    | error e =>
      rw [he] at h
      cases h
    | ok r =>
      rw [he] at h
      cases h
      obtain ⟨text, body', hbody, hc, hb', hrest⟩ := exists_of_unicodeEscape hdigits hb he
      exact .inr ⟨_, text, body', rfl, hbody, hc, hb', hrest⟩

theorem CharText.length_pos (h : CharText c text) : 0 < text.length := by
  cases h <;> simp

theorem exists_of_stringTail {cs : List Char} (h : stringTail cs = .ok (s, rest')) :
    ∃ c? more, stringChar cs = .ok (c?, more) ∧ ((c? = none ∧ s = [] ∧ rest' = more) ∨
      ∃ c s', c? = some c ∧ s = c :: s' ∧ stringTail more = .ok (s', rest')) := by
  cases hchar : stringChar cs with
  | error e =>
    rw [stringTail] at h
    split at h
    · cases h
    · next h' => cases hchar.symm.trans h'
    · next h' => cases hchar.symm.trans h'
  | ok r =>
    obtain ⟨c?, more⟩ := r
    refine ⟨c?, more, rfl, ?_⟩
    cases c? with
    | none =>
      rw [stringTail_of_none hchar] at h
      cases h
      exact .inl ⟨rfl, rfl, rfl⟩
    | some c =>
      rw [stringTail_of_some hchar] at h
      cases htail : stringTail more with
      | error e =>
        rw [htail] at h
        cases h
      | ok r =>
        rw [htail] at h
        cases h
        exact .inr ⟨c, r.1, rfl, rfl, rfl⟩

theorem spells_of_stringTail (hb : StringBody body)
    (h : stringTail (body ++ '"' :: rest) = .ok (s, rest')) : Spells s body ∧ rest' = rest := by
  -- A character may take two escapes, so that the rest is shorter, but not one step shorter.
  induction hn : body.length using Nat.strong_induction_on generalizing body s with
  | h n ih =>
    obtain ⟨c?, more, hchar, htail⟩ := exists_of_stringTail h
    rcases exists_of_stringChar hb hchar with
      ⟨rfl, rfl, rfl⟩ | ⟨c, text, body', rfl, rfl, hc, hb', rfl⟩
    · rcases htail with ⟨-, rfl, rfl⟩ | ⟨c, s', hsome, -, -⟩
      · exact ⟨.nil, rfl⟩
      · cases hsome
    · rcases htail with ⟨hnone, -, -⟩ | ⟨c', s', hsome, rfl, hmore⟩
      · cases hnone
      · cases hsome
        have hlt : body'.length < n := by
          have hpos := hc.length_pos
          rw [List.length_append] at hn
          omega
        obtain ⟨hs, rfl⟩ := ih body'.length hlt hb' hmore rfl
        exact ⟨.cons hc hs, rfl⟩

end TopDown.Json
