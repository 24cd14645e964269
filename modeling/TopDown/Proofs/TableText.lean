import TopDown.Proofs.PlainJson
import TopDown.Proofs.TableSpelling
import TopDown.Table.Printer

namespace TopDown

open Json

theorem TerminalPolicy.text_renderAt (policy : TerminalPolicy) (level : Nat) :
    policy.Text ((Value.string policy.name).renderAt level).toList :=
  .word (stringText_renderAt policy.name level)

theorem RuleDraft.text_renderAt (rule : RuleDraft) (level : Nat) :
    rule.Text (rule.toJsonValue.renderAt level).toList := by
  refine lawful_record.recordText_renderAt ?_ (by simp) ?_ level
  · rw [List.forall_mem_cons, List.forall_mem_singleton]
    constructor
    · exact ⟨record.fields[0], List.getElem_mem _, rfl, stringText_renderAt rule.name⟩
    · exact ⟨record.fields[1], List.getElem_mem _, rfl,
        listText_renderAt listText_strings rule.alternatives⟩
  · simp [record]

namespace GrammarTable

theorem forall_mem_listField {P : String × Value → Prop} {name : String} {items : List String}
    (h : P (name, .strings items)) : ∀ f ∈ listField name items, P f := by
  rw [listField]
  split
  · intro f hf
    cases hf
  · exact List.forall_mem_singleton.mpr h

theorem map_fst_listField (name : String) (items : List String) :
    (listField name items).map Prod.fst = if items = [] then [] else [name] := by
  rw [listField]
  cases items <;> rfl

theorem text_renderAt (t : GrammarTable) (level : Nat) :
    t.Text (t.toJsonValue.renderAt level).toList := by
  refine lawful_record.recordText_renderAt ?_ ?_ ?_ level
  · simp only [List.forall_mem_append, List.forall_mem_cons]
    refine ⟨⟨⟨⟨?_, ?_, ?_, List.forall_mem_nil _⟩, ?_⟩, ?_⟩, ?_, ?_, List.forall_mem_nil _⟩
    · exact ⟨record.fields[0], List.getElem_mem _, rfl, stringText_renderAt t.start⟩
    · exact ⟨record.fields[1], List.getElem_mem _, rfl, stringText_renderAt t.endMarker⟩
    · exact ⟨record.fields[2], List.getElem_mem _, rfl, t.policy.text_renderAt⟩
    · exact forall_mem_listField
        ⟨record.fields[3], List.getElem_mem _, rfl, listText_strings t.patterns⟩
    · exact forall_mem_listField
        ⟨record.fields[4], List.getElem_mem _, rfl, listText_strings t.literals⟩
    · exact ⟨record.fields[5], List.getElem_mem _, rfl, boolText_renderAt t.allowLeftRecursion⟩
    · exact ⟨record.fields[6], List.getElem_mem _, rfl,
        listText_renderAt RuleDraft.text_renderAt t.rules⟩
  · simp only [List.map_append, map_fst_listField, List.map_cons, List.map_nil]
    split <;> split <;> decide
  · simp [record, map_fst_listField, LeftOut]

theorem ofJson_append (t : GrammarTable) {before : String} (hb : Blanks before.toList)
    (after : String) : ofJson (before ++ t.toJson ++ after) =
      if Blanks after.toList then .ok t else .error .malformed :=
  readAll_surrounded (understands_read t _ (t.text_renderAt 0)).2 hb after

theorem ofJson_toJson (t : GrammarTable) : ofJson t.toJson = .ok t := by
  simpa [blanks_nil] using t.ofJson_append (show Blanks "".toList from blanks_nil) ""

/--
A table is read back from its text, and also if there are blanks around the text. With anything else
behind it the text is refused. As JSON asks, no text of the table brings a control code with it.
-/
theorem toJson_restored_and_plain (t : GrammarTable) :
    ofJson t.toJson = .ok t ∧
    (∀ before after : String, Blanks before.toList →
      ofJson (before ++ t.toJson ++ after) =
        if Blanks after.toList then .ok t else .error .malformed) ∧
    IsPlain t.toJson.toList :=
  ⟨t.ofJson_toJson, fun _ after hb ↦ t.ofJson_append hb after, isPlain_renderAt t.toJsonValue 0⟩

def escapes : GrammarTable where
  start := "\"\\/"
  endMarker := "\x00\t\u2028"
  policy := .inferred
  literals := ["", "\x1b[0m", "💡"]
  rules := [⟨"", []⟩, ⟨"\"\\/", [[], ["\x7f\r\n", "é"]]⟩, ⟨"", [[]]⟩]

theorem toJson_restored_and_plain_escapes :
    Blanks " \n".toList ∧ ofJson (" \n" ++ escapes.toJson ++ "\r\n") = .ok escapes ∧
    ofJson (" \n" ++ escapes.toJson ++ "x") = .error .malformed ∧
    '\x00' ∈ escapes.endMarker.toList ∧ IsPlain escapes.toJson.toList := by
  have hb : Blanks " \n".toList := by decide
  obtain ⟨-, happend, hplain⟩ := toJson_restored_and_plain escapes
  have hread := happend " \n" "\r\n" hb
  have hrefuse := happend " \n" "x" hb
  rw [if_pos (by decide)] at hread
  rw [if_neg (by decide)] at hrefuse
  exact ⟨hb, hread, hrefuse, by decide, hplain⟩

end GrammarTable

end TopDown
