import TopDown.Proofs.MatchLocality
import TopDown.Proofs.MatchTable
import TopDown.Tokenizer

namespace TopDown.Regex

open Unicode (isBlank)

variable {r a b : Regex} {s t : Text} {i e : Nat}

theorem size_extract (he : e ≤ s.size) : (s.extract i e).size = e - i := by
  rw [Array.size_extract, Nat.min_eq_left he]

theorem occurs_extract (hi : i ≤ e) (he : e ≤ s.size) : Occurs (s.extract i e) s i := by
  have hsize := size_extract (i := i) he
  refine ⟨by omega, fun j hj ↦ ?_⟩
  rw [Array.getElem?_extract_of_lt (by omega), Array.getElem?_eq_getElem (by omega)]

theorem occurs_append (before part after : List Char) :
    Occurs part.toArray (before ++ part ++ after).toArray before.length := by
  refine ⟨by simp, fun j hj ↦ ?_⟩
  rw [List.size_toArray] at hj
  rw [List.getElem?_toArray, List.getElem?_toArray, List.append_assoc,
    List.getElem?_append_right (Nat.le_add_right _ _), Nat.add_sub_cancel_left,
    List.getElem?_append_left hj]

def Parts (r : Regex) : Prop :=
  ∀ (s : Text) (i e : Nat), e ∈ ends s r i →
    Reads (!isBlank ·) s i e ∨ e = i + 1 ∧ s[i]?.any isBlank = true

theorem Parts.alt (ha : a.Parts) (hb : b.Parts) : (alt a b).Parts := by
  intro s i e h
  rw [ends, List.mem_eraseDups, List.mem_append] at h
  exact h.elim (ha s i e) (hb s i e)

structure Separates (r : Regex) : Prop where
  lookFree : r.lookFree = true
  consumes : r.consumes = true
  parts : r.Parts
  space_mem : ∀ (s : Text) (i : Nat), s[i]? = some ' ' → i + 1 ∈ ends s r i

structure IsToken (r : Regex) (token : List Char) : Prop where
  ne_nil : token ≠ []
  not_isBlank : ∀ c ∈ token, isBlank c = false
  head?_eq : (ends token.toArray r 0).head? = some token.length

theorem Separates.isToken_of_head? (hr : r.Separates) (hi : i ≤ s.size)
    (h : (ends s r i).head? = some e)
    (hany : (s.extract i e).toList.any (!isBlank ·) = true) :
    IsToken r (s.extract i e).toList := by
  have hmem : e ∈ ends s r i := List.mem_of_head? h
  have hlt : i < e := lt_of_mem_ends hr.consumes hmem
  have hle : e ≤ s.size := le_size_of_mem_ends hi hmem
  have hsize := size_extract (i := i) hle
  have hoccurs := occurs_extract (Nat.le_of_lt hlt) hle
  have hplace {c : Char} (hc : c ∈ (s.extract i e).toList) :
      ∃ j, i + j < e ∧ s[i + j]? = some c := by
    obtain ⟨j, hj, rfl⟩ := List.mem_iff_getElem.mp hc
    have hj' : j < (s.extract i e).size := hj
    refine ⟨j, by omega, ?_⟩
    rw [hoccurs.getElem?_eq j hj', Array.getElem?_eq_getElem hj', Array.getElem_toList]
  have hread : Reads (!isBlank ·) s i e := by
    obtain hread | ⟨rfl, hblank⟩ := hr.parts s i e hmem
    · exact hread
    · -- The only character is a blank, but one of the characters is none.
      obtain ⟨c, hc, hn⟩ := List.any_eq_true.mp hany
      obtain ⟨j, hj, hs⟩ := hplace hc
      obtain rfl : j = 0 := by omega
      rw [Nat.add_zero] at hs
      rw [hs, Option.any_some] at hblank
      simp [hblank] at hn
  refine ⟨fun hnil ↦ ?_, fun c hc ↦ ?_, ?_⟩
  · rw [hnil] at hany
    cases hany
  · obtain ⟨j, hj, hs⟩ := hplace hc
    simpa [hs] using hread.2 (i + j) (Nat.le_add_right i j) hj
  · have hwithin := ends_within hr.lookFree hoccurs (Nat.zero_le _)
    rw [Array.toArray_toList, Array.length_toList]
    refine hwithin.head?_eq ?_ (Nat.le_refl _)
    rw [Nat.add_zero, h, hsize, Nat.add_sub_cancel' (Nat.le_of_lt hlt)]

theorem Separates.head?_of_isToken (hr : r.Separates) {token : List Char} (ht : IsToken r token)
    (h : Occurs token.toArray s i) (hafter : s[i + token.length]?.all isBlank = true) :
    (ends s r i).head? = some (i + token.length) := by
  obtain ⟨c, rest, rfl⟩ := List.exists_cons_of_ne_nil ht.ne_nil
  have hfirst : s[i]? = some c := by
    have := h.getElem?_eq 0 (by simp)
    simpa using this
  have hc : isBlank c = false := ht.not_isBlank c List.mem_cons_self
  have hwithin := ends_within hr.lookFree h (Nat.zero_le _)
  refine hwithin.head?_eq_of_le (fun e he ↦ ?_) ht.head?_eq
  rw [Nat.add_zero] at he
  obtain hread | ⟨-, hblank⟩ := hr.parts s i e he
  · refine Nat.not_lt.mp fun hlt ↦ ?_
    have hnext := hread.2 (i + (c :: rest).length) (Nat.le_add_right _ _) hlt
    cases hs : s[i + (c :: rest).length]? with
    | none =>
      rw [hs] at hnext
      cases hnext
    | some d =>
      rw [hs, Option.all_some] at hafter
      rw [hs, Option.any_some, hafter] at hnext
      cases hnext
  · rw [hfirst, Option.any_some, hc] at hblank
    cases hblank

theorem Separates.head?_of_space (hr : r.Separates) (h : s[i]? = some ' ') :
    (ends s r i).head? = some (i + 1) := by
  have hmem := hr.space_mem s i h
  have hall : ∀ e ∈ ends s r i, e = i + 1 := by
    intro e he
    obtain hread | ⟨rfl, -⟩ := hr.parts s i e he
    · have hlt := lt_of_mem_ends hr.consumes he
      have hspace := hread.2 i (Nat.le_refl i) hlt
      rw [h] at hspace
      exact absurd hspace (by decide)
    · rfl
  obtain ⟨e, rest, hends⟩ := List.exists_cons_of_ne_nil (List.ne_nil_of_mem hmem)
  rw [hends] at hall ⊢
  rw [List.head?_cons, hall e List.mem_cons_self]

variable {token : List Char} {tokens : List (List Char)}

theorem Separates.findAfter_token (hr : r.Separates) (before : List Char) (ht : IsToken r token)
    (after : List Char) (hafter : after.head?.all isBlank = true) :
    (table (before ++ token ++ after).toArray r).findAfter before.length =
      ⟨before.length, before.length + token.length⟩ ::
        (table (before ++ token ++ after).toArray r).findAfter (before ++ token).length := by
  have hnext : (before ++ token ++ after).toArray[before.length + token.length]?.all isBlank =
      true := by
    rwa [← List.length_append, List.getElem?_toArray, List.getElem?_append_right (Nat.le_refl _),
      Nat.sub_self, ← List.head?_eq_getElem?]
  rw [List.length_append]
  exact findAfter_table_cons hr.consumes (by simp)
    (hr.head?_of_isToken ht (occurs_append before token after) hnext)

theorem Separates.findAfter_space (hr : r.Separates) (before rest : List Char) :
    (table (before ++ ' ' :: rest).toArray r).findAfter before.length =
      ⟨before.length, before.length + 1⟩ ::
        (table (before ++ ' ' :: rest).toArray r).findAfter (before ++ [' ']).length := by
  rw [List.length_append]
  exact findAfter_table_cons hr.consumes (by simp) (hr.head?_of_space (by simp))

/-- The spans of tokens with spaces between them, and of the spaces, from `i` on. -/
def lineSpans : Nat → List (List Char) → List Span
  | _, [] => []
  | i, [token] => [⟨i, i + token.length⟩]
  | i, token :: tokens =>
    ⟨i, i + token.length⟩ :: ⟨i + token.length, i + token.length + 1⟩ ::
      lineSpans (i + token.length + 1) tokens

theorem intercalate_space (token next : List Char) (tokens : List (List Char)) :
    [' '].intercalate (token :: next :: tokens) =
      token ++ ' ' :: [' '].intercalate (next :: tokens) := by
  rw [List.intercalate_cons_cons, List.append_assoc, List.singleton_append]

theorem append_intercalate_space (before token next : List Char) (tokens : List (List Char)) :
    before ++ [' '].intercalate (token :: next :: tokens) =
      before ++ token ++ ' ' :: [' '].intercalate (next :: tokens) := by
  rw [intercalate_space, List.append_assoc]

theorem Separates.findAfter_line (hr : r.Separates) (before : List Char)
    (ht : ∀ token ∈ tokens, IsToken r token) :
    (table (before ++ [' '].intercalate tokens).toArray r).findAfter before.length =
      lineSpans before.length tokens := by
  have hend (cs : List Char) : (table cs.toArray r).findAfter cs.length = [] :=
    findAfter_table_size (s := cs.toArray) hr.consumes
  -- What has been searched grows by a token and a space in each round.
  induction tokens generalizing before with
  | nil =>
    rw [List.intercalate_nil, List.append_nil, hend]
    rfl
  | cons token tokens ih =>
    obtain ⟨htoken, htokens⟩ := List.forall_mem_cons.mp ht
    cases tokens with
    | nil =>
      have hfind := hr.findAfter_token before htoken [] rfl
      rw [List.append_nil, hend] at hfind
      rw [List.intercalate_singleton, hfind]
      rfl
    | cons next tokens =>
      have hrest := ih (before ++ token ++ [' ']) htokens
      rw [List.append_assoc (before ++ token), List.singleton_append] at hrest
      rw [append_intercalate_space, hr.findAfter_token before htoken _ rfl, hr.findAfter_space,
        hrest]
      simp only [List.length_append, List.length_singleton]
      rfl

theorem Separates.findAll_line (hr : r.Separates) (ht : ∀ token ∈ tokens, IsToken r token) :
    r.findAll ([' '].intercalate tokens).toArray = lineSpans 0 tokens := by
  rw [findAll_eq_findAfter hr.consumes]
  exact hr.findAfter_line [] ht

theorem text_append (before part after : List Char) :
    Span.text ⟨before.length, before.length + part.length⟩ (before ++ part ++ after).toArray =
      String.ofList part := by
  unfold Span.text
  rw [List.extract_toArray]
  simp

theorem IsToken.any_not_isBlank (ht : IsToken r token) : token.any (!isBlank ·) = true := by
  obtain ⟨c, hc⟩ := List.exists_mem_of_ne_nil token ht.ne_nil
  exact List.any_eq_true.mpr ⟨c, hc, by rw [ht.not_isBlank c hc, Bool.not_false]⟩

theorem filter_text_lineSpans (before : List Char) (ht : ∀ token ∈ tokens, IsToken r token) :
    ((lineSpans before.length tokens).map
      (·.text (before ++ [' '].intercalate tokens).toArray)).filter
        (·.toList.any (!isBlank ·)) = tokens.map String.ofList := by
  induction tokens generalizing before with
  | nil => rfl
  | cons token tokens ih =>
    obtain ⟨htoken, htokens⟩ := List.forall_mem_cons.mp ht
    have hkeep : (String.ofList token).toList.any (!isBlank ·) = true := by
      rw [String.toList_ofList]
      exact htoken.any_not_isBlank
    cases tokens with
    | nil =>
      have htext := text_append before token []
      rw [List.append_nil] at htext
      rw [List.intercalate_singleton, lineSpans, List.map_singleton, htext, List.filter_cons,
        if_pos hkeep]
      rfl
    | cons next tokens =>
      have hrest := ih (before ++ token ++ [' ']) htokens
      have hspace := text_append (before ++ token) [' '] ([' '].intercalate (next :: tokens))
      rw [List.append_assoc (before ++ token), List.singleton_append] at hrest hspace
      simp only [List.length_append, List.length_singleton] at hrest hspace
      have hdrop : ¬ (String.ofList [' ']).toList.any (!isBlank ·) = true := by decide
      rw [lineSpans, append_intercalate_space, List.map_cons, List.map_cons, text_append, hspace,
        List.filter_cons, if_pos hkeep, List.filter_cons, if_neg hdrop, hrest]
      · rfl
      · exact List.cons_ne_nil _ _

theorem gaps_lineSpans (i : Nat) (tokens : List (List Char)) :
    ∀ gap ∈ Tokenizer.gaps (i + ([' '].intercalate tokens).length) i (lineSpans i tokens),
      gap.start = gap.stop := by
  induction tokens generalizing i with
  | nil =>
    intro gap hgap
    rw [List.mem_singleton.mp hgap]
    rfl
  | cons token tokens ih =>
    have hmax (n m : Nat) : max n (n + m) = n + m := Nat.max_eq_right (Nat.le_add_right n m)
    cases tokens with
    | nil =>
      rw [List.intercalate_singleton, lineSpans, Tokenizer.gaps, Tokenizer.gaps, hmax]
      simp
    | cons next tokens =>
      have hsize : i + ([' '].intercalate (token :: next :: tokens)).length =
          i + token.length + 1 + ([' '].intercalate (next :: tokens)).length := by
        rw [intercalate_space, List.length_append, List.length_cons]
        omega
      rw [hsize, lineSpans, Tokenizer.gaps, Tokenizer.gaps, hmax, hmax]
      · simpa using ih (i + token.length + 1)
      · exact List.cons_ne_nil _ _

end TopDown.Regex
