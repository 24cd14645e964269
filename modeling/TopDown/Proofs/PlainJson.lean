import TopDown.Proofs.PrintedJson

namespace TopDown.Json

def IsPlain (cs : List Char) : Prop :=
  ∀ c ∈ cs, ' ' ≤ c ∨ c = '\n'

instance : DecidablePred IsPlain := fun cs ↦
  decidable_of_iff (cs.all fun c ↦ ' ' ≤ c ∨ c = '\n') (by simp [IsPlain])

theorem isPlain_append {cs ds : List Char} : IsPlain (cs ++ ds) ↔ IsPlain cs ∧ IsPlain ds :=
  List.forall_mem_append

theorem isPlain_flatMap {β : Type} {as : List β} {f : β → List Char} (h : ∀ a ∈ as, IsPlain (f a)) :
    IsPlain (as.flatMap f) := by
  intro c hc
  obtain ⟨a, ha, hc⟩ := List.mem_flatMap.mp hc
  exact h a ha c hc

theorem le_hexDigit {n : Nat} (hn : n < 16) : ' ' ≤ hexDigit n := by
  revert n
  decide

theorem isPlain_escapeChar (c : Char) : IsPlain (escapeChar c) := by
  unfold escapeChar
  split
  case h_8 =>
    split
    · next hc =>
      have hlt : c.toNat < 32 := hc
      have hhigh := le_hexDigit (show c.toNat / 16 < 16 by omega)
      have hlow := le_hexDigit (show c.toNat % 16 < 16 by omega)
      simp [IsPlain, hhigh, hlow]
    · next hc => simpa [IsPlain] using .inl (Char.not_lt.mp hc)
  all_goals decide

theorem isPlain_quote (s : String) : IsPlain (quote s).toList := by
  have hs := isPlain_flatMap fun c (_ : c ∈ s.toList) ↦ isPlain_escapeChar c
  rw [toList_quote, ← List.singleton_append, isPlain_append, isPlain_append]
  exact ⟨by decide, hs, by decide⟩

theorem isPlain_newLine (level : Nat) : IsPlain (newLine level).toList := by
  intro c hc
  rcases eq_of_mem_newLine hc with rfl | rfl
  · exact .inr rfl
  · exact .inl (by decide)

theorem isPlain_intercalate {items : List String} (h : ∀ item ∈ items, IsPlain item.toList) :
    IsPlain (",".intercalate items).toList := by
  rw [String.toList_intercalate]
  cases items with
  | nil => exact nofun
  | cons item items =>
    obtain ⟨hitem, hitems⟩ := List.forall_mem_cons.mp h
    change IsPlain ([','].intercalate _)
    rw [List.map_cons, intercalate_comma, isPlain_append, List.flatMap_map]
    refine ⟨hitem, isPlain_flatMap fun other hother ↦ ?_⟩
    exact List.forall_mem_cons.mpr ⟨.inl (by decide), hitems other hother⟩

theorem isPlain_bracketed {opening closing : String} (hopening : IsPlain opening.toList)
    (hclosing : IsPlain closing.toList) (level : Nat) {items : List String}
    (h : ∀ item ∈ items, IsPlain item.toList) :
    IsPlain (bracketed opening closing level items).toList := by
  have hrows : IsPlain (",".intercalate (items.map (newLine (level + 1) ++ ·))).toList := by
    refine isPlain_intercalate fun row hrow ↦ ?_
    obtain ⟨item, hitem, rfl⟩ := List.mem_map.mp hrow
    rw [String.toList_append, isPlain_append]
    exact ⟨isPlain_newLine _, h item hitem⟩
  unfold bracketed
  split
  · rw [String.toList_append, isPlain_append]
    exact ⟨hopening, hclosing⟩
  · simp only [String.toList_append, isPlain_append]
    exact ⟨⟨⟨hopening, hrows⟩, isPlain_newLine level⟩, hclosing⟩

theorem isPlain_toString (n : Nat) : IsPlain (toString n).toList := by
  intro c hc
  have hdigit := Nat.isDigit_of_mem_toDigits (by decide) (by decide) (Nat.toList_repr ▸ hc)
  simp only [Char.isDigit, Bool.and_eq_true, decide_eq_true_eq] at hdigit
  exact .inl (Char.le_trans (by decide) hdigit.1)

mutual

theorem isPlain_renderAt : ∀ (value : Value) (level : Nat), IsPlain (value.renderAt level).toList
  | .null, level => by
    rw [Value.renderAt]
    decide
  | .bool value, level => by
    rw [Value.renderAt]
    cases value <;> decide
  | .number value, level => by
    rw [Value.renderAt]
    exact isPlain_toString value
  | .string value, level => by
    rw [Value.renderAt]
    exact isPlain_quote value
  | .array items, level => by
    rw [Value.renderAt]
    exact isPlain_bracketed (by decide) (by decide) level (isPlain_renderItems items (level + 1))
  | .object fields, level => by
    rw [Value.renderAt]
    exact isPlain_bracketed (by decide) (by decide) level (isPlain_renderFields fields (level + 1))

theorem isPlain_renderItems : ∀ (items : List Value) (level : Nat),
    ∀ text ∈ Value.renderItems level items, IsPlain text.toList
  | [], _ => nofun
  | item :: items, level => by
    rw [Value.renderItems]
    exact List.forall_mem_cons.mpr
      ⟨isPlain_renderAt item level, isPlain_renderItems items level⟩

theorem isPlain_renderFields : ∀ (fields : List (String × Value)) (level : Nat),
    ∀ text ∈ Value.renderFields level fields, IsPlain text.toList
  | [], _ => nofun
  | (name, value) :: fields, level => by
    rw [Value.renderFields]
    refine List.forall_mem_cons.mpr ⟨?_, isPlain_renderFields fields level⟩
    simp only [String.toList_append, isPlain_append]
    exact ⟨⟨isPlain_quote name, by decide⟩, isPlain_renderAt value level⟩

end

end TopDown.Json
