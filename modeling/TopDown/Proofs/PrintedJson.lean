import TopDown.Json.Value
import TopDown.Proofs.JsonRecord

namespace TopDown.Json

theorem isHexDigit_hexDigit {n : Nat} (hn : n < 16) : IsHexDigit n (hexDigit n) := by
  left
  revert n
  decide

theorem charText_escapeChar (c : Char) : CharText c (escapeChar c) := by
  unfold escapeChar
  split
  case h_8 hquote hbackslash _ _ _ _ _ =>
    split
    · next hc =>
      have hlt : c.toNat < 32 := hc
      have hzero : IsHexDigit 0 '0' := isHexDigit_hexDigit (by decide)
      have hunit := HexText.mk hzero hzero
        (isHexDigit_hexDigit (show c.toNat / 16 < 16 by omega))
        (isHexDigit_hexDigit (show c.toNat % 16 < 16 by omega))
      have hn : 16 * (16 * (16 * 0 + 0) + c.toNat / 16) + c.toNat % 16 = c.toNat := by omega
      rw [hn] at hunit
      exact .unit hunit
    · next hc => exact .plain ⟨Char.not_lt.mp hc, hquote, hbackslash⟩
  all_goals exact .short (by decide)

theorem spells_flatMap_escapeChar (s : List Char) : Spells s (s.flatMap escapeChar) := by
  induction s with
  | nil => exact .nil
  | cons c s ih =>
    rw [List.flatMap_cons]
    exact .cons (charText_escapeChar c) ih

theorem toList_quote (s : String) :
    (quote s).toList = '"' :: (s.toList.flatMap escapeChar ++ ['"']) := by
  rw [quote, String.toList_ofList, List.cons_append]

theorem stringText_quote (s : String) : StringText s (quote s).toList :=
  ⟨s.toList.flatMap escapeChar, toList_quote s, spells_flatMap_escapeChar s.toList⟩

theorem head?_toDigits_ne {n : Nat} (hn : 0 < n) : (Nat.toDigits 10 n).head? ≠ some '0' := by
  induction n using Nat.strongRecOn with
  | ind n ih =>
    by_cases hlt : n < 10
    · have hdigits : ∀ d < 10, 0 < d → [Nat.digitChar d].head? ≠ some '0' := by decide
      rw [Nat.toDigits_of_lt_base hlt]
      exact hdigits n hlt hn
    · rw [Nat.toDigits_of_base_le (by decide) (by omega),
        List.head?_append_of_ne_nil _ Nat.toDigits_ne_nil]
      exact ih (n / 10) (by omega) (by omega)

theorem digits_toDigits (n : Nat) : Digits (Nat.toDigits 10 n) :=
  ⟨Nat.toDigits_ne_nil, fun _ hd ↦ Nat.isDigit_of_mem_toDigits (by decide) (by decide) hd⟩

theorem numberText_toString (n : Nat) : NumberText (toString n).toList := by
  have hwhole : Nat.toDigits 10 n = ['0'] ∨
      Digits (Nat.toDigits 10 n) ∧ (Nat.toDigits 10 n).head? ≠ some '0' := by
    rcases Nat.eq_zero_or_pos n with rfl | hn
    · exact .inl rfl
    · exact .inr ⟨digits_toDigits n, head?_toDigits_ne hn⟩
  have h := NumberText.mk (.inl rfl) hwhole (.inl rfl) (.inl rfl)
  rw [List.nil_append, List.append_nil, List.append_nil, ← Nat.toList_repr] at h
  exact h

theorem eq_of_mem_newLine {level : Nat} {c : Char} (hc : c ∈ (newLine level).toList) :
    c = '\n' ∨ c = ' ' := by
  rw [newLine, String.toList_ofList, List.mem_cons, List.mem_replicate] at hc
  exact hc.imp_right (·.2)

theorem blanks_newLine (level : Nat) : Blanks (newLine level).toList := by
  intro c hc
  rcases eq_of_mem_newLine hc with rfl | rfl <;> rfl

theorem separated_rows {closing : Char} (level : Nat) (items : List String) :
    Separated closing false
      ((items.flatMap fun item ↦ ',' :: ((newLine (level + 1)).toList ++ item.toList)) ++
        ((newLine level).toList ++ [closing])) (items.map String.toList) := by
  induction items with
  | nil => exact .done (blanks_newLine level)
  | cons item items ih =>
    rw [List.flatMap_cons, List.cons_append, List.cons_append, List.append_assoc, List.append_assoc]
    exact .next blanks_nil (blanks_newLine _) ih

theorem intercalate_comma (item : List Char) (items : List (List Char)) :
    [','].intercalate (item :: items) = item ++ items.flatMap (',' :: ·) := by
  induction items generalizing item with
  | nil => simp
  | cons other items ih =>
    rw [List.intercalate_cons_cons, ih, List.flatMap_cons]
    simp

theorem exists_separated_bracketed (opening closing : Char) (level : Nat) (items : List String) :
    ∃ text, (bracketed (String.singleton opening) (String.singleton closing) level items).toList =
      opening :: text ∧ Separated closing true text (items.map String.toList) := by
  unfold bracketed
  cases items with
  | nil => exact ⟨[closing], by simp, .done blanks_nil⟩
  | cons item items =>
    refine ⟨_, ?_, .first (blanks_newLine (level + 1)) (separated_rows level items)⟩
    simp [intercalate_comma, List.flatMap_map]

def fieldText (level : Nat) (field : String × Value) : String :=
  quote field.1 ++ ": " ++ field.2.renderAt level

def printedMember (level : Nat) (field : String × Value) : List Char × List Char :=
  (field.1.toList.flatMap escapeChar, (field.2.renderAt level).toList)

theorem memberText_printedMember (level : Nat) (field : String × Value) :
    MemberText (printedMember level field) (fieldText level field).toList := by
  refine ⟨[], [' '], blanks_nil, by decide, ?_⟩
  simp [printedMember, fieldText, toList_quote]

theorem renderItems_eq (level : Nat) (items : List Value) :
    Value.renderItems level items = items.map (·.renderAt level) := by
  induction items with
  | nil => rfl
  | cons item items ih => rw [Value.renderItems, ih, List.map_cons]

theorem renderFields_eq (level : Nat) (fields : List (String × Value)) :
    Value.renderFields level fields = fields.map (fieldText level) := by
  induction fields with
  | nil => rfl
  | cons field fields ih =>
    rw [Value.renderFields, ih]
    rfl

theorem arrayText_renderAt (items : List Value) (level : Nat) :
    ArrayText (items.map fun item ↦ (item.renderAt (level + 1)).toList)
      ((Value.array items).renderAt level).toList := by
  obtain ⟨text, ht, hs⟩ := exists_separated_bracketed '[' ']' level
    (Value.renderItems (level + 1) items)
  rw [renderItems_eq, List.map_map] at hs
  exact ⟨text, ht, hs⟩

theorem objectText_renderAt (fields : List (String × Value)) (level : Nat) :
    ObjectText (fields.map (printedMember (level + 1)))
      ((Value.object fields).renderAt level).toList := by
  obtain ⟨text, ht, hs⟩ := exists_separated_bracketed '\x7b' '\x7d' level
    (Value.renderFields (level + 1) fields)
  rw [renderFields_eq, List.map_map] at hs
  refine ⟨text, _, ht, hs, ?_⟩
  rw [List.forall₂_map_left_iff, List.forall₂_map_right_iff, List.forall₂_same]
  exact fun field _ ↦ memberText_printedMember (level + 1) field

theorem stringBody_printedMember (fields : List (String × Value)) (level : Nat) :
    ∀ m ∈ fields.map (printedMember level), StringBody m.1 :=
  List.forall_mem_map.mpr fun _ _ ↦ (spells_flatMap_escapeChar _).stringBody

mutual

theorem jsonText_renderAt : ∀ (value : Value) (level : Nat), JsonText (value.renderAt level).toList
  | .null, _ => by
    rw [Value.renderAt]
    exact .null
  | .bool value, _ => by
    rw [Value.renderAt]
    have h := JsonText.bool value
    cases value <;> exact h
  | .number value, _ => by
    rw [Value.renderAt]
    exact .number (numberText_toString value)
  | .string value, _ => by
    rw [Value.renderAt]
    obtain ⟨body, htext, hs⟩ := stringText_quote value
    rw [htext]
    exact .string hs.stringBody
  | .array items, level => by
    refine .array (arrayText_renderAt items level) ?_
    exact List.forall_mem_map.mpr (jsonText_items items (level + 1))
  | .object fields, level => by
    refine .object (objectText_renderAt fields level) (stringBody_printedMember _ _) ?_
    exact List.forall_mem_map.mpr (jsonText_fields fields (level + 1))

theorem jsonText_items : ∀ (items : List Value) (level : Nat),
    ∀ item ∈ items, JsonText (item.renderAt level).toList
  | [], _ => nofun
  | item :: items, level =>
    List.forall_mem_cons.mpr ⟨jsonText_renderAt item level, jsonText_items items level⟩

theorem jsonText_fields : ∀ (fields : List (String × Value)) (level : Nat),
    ∀ field ∈ fields, JsonText (printedMember level field).2
  | [], _ => nofun
  | (_, value) :: fields, level =>
    List.forall_mem_cons.mpr ⟨jsonText_renderAt value level, jsonText_fields fields level⟩

end

theorem isArray_renderAt (items : List Value) (level : Nat) :
    IsArray (items.map fun item ↦ (item.renderAt (level + 1)).toList)
      ((Value.array items).renderAt level).toList where
  arrayText := arrayText_renderAt items level
  items := List.forall_mem_map.mpr fun item _ ↦ jsonText_renderAt item (level + 1)

theorem isObject_renderAt (fields : List (String × Value)) (level : Nat) :
    IsObject (fields.map (printedMember (level + 1)))
      ((Value.object fields).renderAt level).toList where
  objectText := objectText_renderAt fields level
  keys := stringBody_printedMember fields (level + 1)
  values := List.forall_mem_map.mpr fun field _ ↦ jsonText_renderAt field.2 (level + 1)

theorem listText_renderAt {α : Type} {Text : α → List Char → Prop} {print : α → Value}
    (h : ∀ a level, Text a ((print a).renderAt level).toList) (as : List α) (level : Nat) :
    ListText Text as ((Value.array (as.map print)).renderAt level).toList := by
  refine ⟨_, arrayText_renderAt (as.map print) level, ?_⟩
  rw [List.map_map, List.forall₂_map_right_iff, List.forall₂_same]
  exact fun a _ ↦ h a (level + 1)

theorem stringText_renderAt (s : String) (level : Nat) :
    StringText s ((Value.string s).renderAt level).toList := by
  rw [Value.renderAt]
  exact stringText_quote s

theorem listText_strings (items : List String) (level : Nat) :
    ListText StringText items ((Value.strings items).renderAt level).toList :=
  listText_renderAt stringText_renderAt items level

theorem boolText_renderAt (b : Bool) (level : Nat) :
    BoolText b ((Value.bool b).renderAt level).toList := by
  rw [Value.renderAt]
  cases b <;> rfl

namespace Record

variable {σ : Type} {r : Record σ} {Text : String → List Char → Prop} {LeftOut : String → Prop}

theorem Lawful.recordText_renderAt (hl : r.Lawful) {fields : List (String × Value)}
    (hf : ∀ f ∈ fields, ∃ field ∈ r.fields, field.name = f.1 ∧
      ∀ level, Text f.1 (f.2.renderAt level).toList)
    (once : (fields.map Prod.fst).Nodup)
    (others : ∀ field ∈ r.fields, field.name ∉ fields.map Prod.fst → LeftOut field.name)
    (level : Nat) :
    r.RecordText Text LeftOut ((Value.object fields).renderAt level).toList := by
  have hnamed (field : Field σ) (f : String × Value) (hname : field.name = f.1) :
      field.Named (printedMember (level + 1) f).1 :=
    ⟨field.name, List.mem_cons_self, hname ▸ spells_flatMap_escapeChar _⟩
  have hunique : ∀ f ∈ fields, ∀ field ∈ r.fields,
      field.Named (printedMember (level + 1) f).1 → field.name = f.1 := by
    intro f hmem field hfield hn
    obtain ⟨other, ho, hname, -⟩ := hf f hmem
    rwa [hl.eq_of_named ho hfield (hnamed other f hname) hn]
  refine .object (objectText_renderAt fields level) ?_ ?_ ?_
  · refine List.forall_mem_map.mpr fun f hmem ↦ ?_
    obtain ⟨field, hfield, hname, htext⟩ := hf f hmem
    exact ⟨field, hfield, hnamed field f hname, hname ▸ htext (level + 1)⟩
  · rw [List.pairwise_map]
    refine (List.pairwise_map.mp once).imp_of_mem fun {f f'} hmem hmem' hne field hfield hn hn' ↦ ?_
    exact hne ((hunique f hmem field hfield hn).symm.trans (hunique f' hmem' field hfield hn'))
  · intro field hfield hnone
    refine others field hfield fun hmem ↦ ?_
    obtain ⟨f, hf, hname⟩ := List.mem_map.mp hmem
    exact hnone _ (List.mem_map_of_mem hf) (hnamed field f hname.symm)

end Record

end TopDown.Json
