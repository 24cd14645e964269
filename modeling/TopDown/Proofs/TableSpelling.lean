import TopDown.Proofs.BuiltGrammar
import TopDown.Proofs.PrintedJson
import TopDown.Table.Reader

namespace TopDown

open Json

theorem getD_eq {α : Type} {o : Option α} {a default : α} (h : ∀ b ∈ o, b = a)
    (hs : o.isSome = true ∨ a = default) : o.getD default = a := by
  cases o with
  | none => exact (hs.resolve_left Bool.false_ne_true).symm
  | some b => exact h b rfl

namespace TerminalPolicy

/-- A policy is written as a string, or as an object with nothing but its name. -/
inductive Text (policy : TerminalPolicy) : List Char → Prop
  | word {text : List Char} (h : StringText policy.name text) : Text policy text
  | variant {key text : List Char} (hk : Spells policy.name.toList key)
      (h : ObjectText [(key, "null".toList)] text) : Text policy text

variable {policy : TerminalPolicy} {cs rest rest' : List Char}

theorem readName_eq (h : readStringAs "variant identifier" cs = .ok (policy.name, rest)) :
    readName cs = .ok (policy, rest) := by
  rw [readName, h]
  cases policy <;> rfl

theorem exact_readName : Exact readName := by
  intro bs text rest rest' policy hb ht h
  rw [readName] at h
  split at h
  · cases h
  · next hread =>
    cases h
    exact exact_readStringAs _ hb ht hread
  · next hread =>
    cases h
    exact exact_readStringAs _ hb ht hread
  · cases h

theorem understands_read : Understands read Text := by
  intro policy text h
  cases h with
  | word h =>
    obtain ⟨hopens, hreads⟩ := understands_readStringAs "variant identifier" policy.name text h
    refine ⟨hopens, fun bs rest hb ↦ ?_⟩
    have hname := readName_eq (hreads [] rest blanks_nil)
    obtain ⟨body, rfl, -⟩ := h
    rw [read, skipBlanks_append hb, List.cons_append, skipBlanks_cons rfl]
    exact hname
  | @variant key _ hk h =>
    obtain ⟨inner, texts, rfl, hs, hm⟩ := h
    obtain _ | ⟨⟨bs₁, bs₂, hb₁, hb₂, rfl⟩, ⟨⟩⟩ := hm
    obtain _ | ⟨hb₀, ⟨hb₃⟩⟩ := hs
    refine ⟨⟨_, _, rfl, rfl, by decide⟩, fun bs rest hb ↦ ?_⟩
    have hkey := (understands_readStringAs "variant identifier" policy.name _ ⟨key, rfl, hk⟩).2
    have hname (rest : List Char) := readName_eq (hkey _ rest hb₀)
    have hnull (rest : List Char) := reads_readNull _ rest hb₂
    rw [read, skipBlanks_append hb, List.cons_append, skipBlanks_cons rfl]
    simp only [List.append_assoc, List.cons_append, List.nil_append] at hname hnull ⊢
    simp only [hname, bind, Except.bind, readColon_append hb₁, hnull, skipBlanks_append hb₃]
    rfl

theorem exists_of_read_object (h : read ('\x7b' :: cs) = .ok (policy, rest)) :
    ∃ cs₁ cs₂ cs₃, readName cs = .ok (policy, cs₁) ∧ readColon cs₁ = .ok cs₂ ∧
      readNull cs₂ = .ok ((), cs₃) ∧ expect ['\x7d'] (skipBlanks cs₃) = .ok rest := by
  change (readName cs >>= _) = _ at h
  obtain ⟨⟨policy', cs₁⟩, hname, h⟩ := except_bind_eq_ok.mp h
  obtain ⟨cs₂, hcolon, h⟩ := except_bind_eq_ok.mp h
  obtain ⟨⟨_, cs₃⟩, hnull, h⟩ := except_bind_eq_ok.mp h
  obtain ⟨cs₄, hclose, h⟩ := except_bind_eq_ok.mp h
  cases h
  exact ⟨cs₁, cs₂, cs₃, hname, hcolon, hnull, hclose⟩

theorem eq_nil_of_expect {more : List Char} {texts : List (List Char)}
    (hs : Separated '\x7d' false more texts)
    (h : expect ['\x7d'] (skipBlanks (more ++ rest)) = .ok rest') : rest' = rest := by
  cases hs with
  | done hb =>
    rw [List.append_assoc, skipBlanks_append hb] at h
    cases h
    rfl
  | next hb _ _ =>
    rw [List.append_assoc, skipBlanks_append hb] at h
    cases h

theorem exact_read_object {members : List (List Char × List Char)} {text : List Char}
    (ho : IsObject members ('\x7b' :: text))
    (h : read ('\x7b' :: (text ++ rest)) = .ok (policy, rest')) : rest' = rest := by
  obtain ⟨cs₁, cs₂, cs₃, hname, hcolon, hnull, hclose⟩ := exists_of_read_object h
  obtain ⟨inner, texts, hcons, hs, hm⟩ := ho.objectText
  cases hcons
  cases members with
  | nil =>
    cases hm
    obtain ⟨hb₀⟩ := hs
    rw [readName, readStringAs, List.append_assoc, skipBlanks_append hb₀] at hname
    cases hname
  | cons m members =>
    obtain _ | ⟨⟨bs₁, bs₂, hb₁, hb₂, rfl⟩, -⟩ := hm
    obtain _ | @⟨bs₀, _, more, _, hb₀, hmore⟩ := hs
    have hkey : JsonText ('"' :: (m.1 ++ ['"'])) := .string (ho.keys m List.mem_cons_self)
    have hvalue : JsonText m.2 := ho.values m List.mem_cons_self
    have hsplit : bs₀ ++ ('"' :: (m.1 ++ '"' :: (bs₁ ++ ':' :: (bs₂ ++ m.2))) ++ more) ++ rest =
        bs₀ ++ ('"' :: (m.1 ++ ['"']) ++ (bs₁ ++ ':' :: (bs₂ ++ (m.2 ++ (more ++ rest))))) := by
      simp
    rw [hsplit] at hname
    obtain rfl := exact_readName hb₀ hkey hname
    rw [readColon_append hb₁] at hcolon
    cases hcolon
    obtain rfl := exact_readNull hb₂ hvalue hnull
    exact eq_nil_of_expect hmore hclose

theorem exact_read : Exact read := by
  intro bs text rest rest' policy hb ht h
  obtain ⟨c, cs, rfl, hbegins, hskip⟩ := ht.exists_skipBlanks hb rest
  have hread : read (c :: (cs ++ rest)) = .ok (policy, rest') := by
    rw [← h, read, read, hskip, skipBlanks_cons hbegins.not_blank.1]
  rw [read, hskip] at h
  cases hbegins with
  | null | yes | no | array => cases h
  | string hbody => exact exact_readName blanks_nil (.string hbody) h
  | object ho => exact exact_read_object ho hread
  | number hc =>
    have hne := (ne_of_number hc).2
    split at h
    · next heq => cases heq
    · next heq =>
      cases heq
      exact absurd (by decide) hne
    · next heq =>
      cases heq
      exact absurd (by decide) hne
    · cases h

end TerminalPolicy

namespace RuleDraft

def FieldText (rule : RuleDraft) : String → List Char → Prop
  | "name" => StringText rule.name
  | "alternatives" => ListText (ListText StringText) rule.alternatives
  | _ => fun _ ↦ False

def Text (rule : RuleDraft) : List Char → Prop :=
  record.RecordText rule.FieldText fun _ ↦ False

structure Partial.Within (rule : RuleDraft) (p : Partial) : Prop where
  name : ∀ name ∈ p.name, name = rule.name
  alternatives : ∀ alternatives ∈ p.alternatives, alternatives = rule.alternatives

theorem understood_record (rule : RuleDraft) :
    record.Understood rule.FieldText (Partial.Within rule) := by
  intro field hf state text hi ht
  have hstring : Understands readString StringText := understands_readStringAs _
  simp only [record, List.mem_cons, List.not_mem_nil, or_false] at hf
  rcases hf with rfl | rfl
  · refine hstring.put ht (fun name ↦ { state with name := some name }) ?_
    exact { hi with name := fun _ h ↦ (Option.some.inj h).symm }
  · refine hstring.readList.readList.put ht
      (fun names ↦ { state with alternatives := some names }) ?_
    exact { hi with alternatives := fun _ h ↦ (Option.some.inj h).symm }

theorem lawful_record : record.Lawful where
  nodup := by decide
  isSet field hf state state' cs rest h other ho := by
    simp only [record, List.mem_cons, List.not_mem_nil, or_false] at hf ho
    rcases hf with rfl | rfl <;>
    · obtain ⟨r, -, heq⟩ := exists_of_map h
      cases heq
      rcases ho with rfl | rfl <;> simp

theorem exact_fields : ∀ field ∈ record.fields, ∀ state, Exact (field.read state) := by
  intro field hf state
  simp only [record, List.mem_cons, List.not_mem_nil, or_false] at hf
  rcases hf with rfl | rfl
  · exact (exact_readStringAs _).map fun _ ↦ rfl
  · exact (exact_readList (exact_readList (exact_readStringAs _))).map fun _ ↦ rfl

theorem exact_read : Exact read :=
  (Record.exact_read lawful_record exact_fields {}).map fun _ ↦ rfl

theorem understands_read : Understands read Text := by
  intro rule text h
  have hopt : ∀ field ∈ record.fields, False → field.optional = true := fun _ _ h ↦ h.elim
  have hempty : ∀ field ∈ record.fields, field.isSet {} = false := by decide
  have hbegun : Partial.Within rule {} := ⟨nofun, nofun⟩
  obtain ⟨p, hreads, hwithin, hset⟩ :=
    Record.exists_reads lawful_record rule.understood_record hopt hempty hbegun h
  simp only [record, List.forall_mem_cons] at hset
  obtain ⟨hname, halternatives, -⟩ := hset
  refine ⟨h.opens, ?_⟩
  have hread := hreads.map fun p ↦ (⟨p.name.getD "", p.alternatives.getD []⟩ : RuleDraft)
  rwa [getD_eq hwithin.name (hname.imp_right False.elim),
    getD_eq hwithin.alternatives (halternatives.imp_right False.elim)] at hread

end RuleDraft

namespace GrammarTable

def FieldText (t : GrammarTable) : String → List Char → Prop
  | "start" => StringText t.start
  | "end_marker" => StringText t.endMarker
  | "terminal_policy" => t.policy.Text
  | "patterns" => ListText StringText t.patterns
  | "literals" => ListText StringText t.literals
  | "allow_left_recursion" => BoolText t.allowLeftRecursion
  | "rules" => ListText RuleDraft.Text t.rules
  | _ => fun _ ↦ False

def LeftOut (t : GrammarTable) : String → Prop
  | "end_marker" => t.endMarker = defaultEndMarker
  | "terminal_policy" => t.policy = .literal
  | "patterns" => t.patterns = []
  | "literals" => t.literals = []
  | "allow_left_recursion" => t.allowLeftRecursion = false
  | _ => False

def Text (t : GrammarTable) : List Char → Prop :=
  record.RecordText t.FieldText t.LeftOut

structure Partial.Within (t : GrammarTable) (p : Partial) : Prop where
  start : ∀ start ∈ p.start, start = t.start
  endMarker : ∀ endMarker ∈ p.endMarker, endMarker = t.endMarker
  policy : ∀ policy ∈ p.policy, policy = t.policy
  patterns : ∀ patterns ∈ p.patterns, patterns = t.patterns
  literals : ∀ literals ∈ p.literals, literals = t.literals
  allowLeftRecursion : ∀ value ∈ p.allowLeftRecursion, value = t.allowLeftRecursion
  rules : ∀ rules ∈ p.rules, rules = t.rules

theorem understood_record (t : GrammarTable) :
    record.Understood t.FieldText (Partial.Within t) := by
  intro field hf state text hi ht
  have hstring : Understands readString StringText := understands_readStringAs _
  simp only [record, List.mem_cons, List.not_mem_nil, or_false] at hf
  rcases hf with rfl | rfl | rfl | rfl | rfl | rfl | rfl
  · refine hstring.put ht (fun start ↦ { state with start := some start }) ?_
    exact { hi with start := fun _ h ↦ (Option.some.inj h).symm }
  · refine hstring.put ht (fun marker ↦ { state with endMarker := some marker }) ?_
    exact { hi with endMarker := fun _ h ↦ (Option.some.inj h).symm }
  · refine TerminalPolicy.understands_read.put ht
      (fun policy ↦ { state with policy := some policy }) ?_
    exact { hi with policy := fun _ h ↦ (Option.some.inj h).symm }
  · refine hstring.readList.put ht (fun patterns ↦ { state with patterns := some patterns }) ?_
    exact { hi with patterns := fun _ h ↦ (Option.some.inj h).symm }
  · refine hstring.readList.put ht (fun literals ↦ { state with literals := some literals }) ?_
    exact { hi with literals := fun _ h ↦ (Option.some.inj h).symm }
  · refine understands_readBool.put ht
      (fun value ↦ { state with allowLeftRecursion := some value }) ?_
    exact { hi with allowLeftRecursion := fun _ h ↦ (Option.some.inj h).symm }
  · refine RuleDraft.understands_read.readList.put ht
      (fun rules ↦ { state with rules := some rules }) ?_
    exact { hi with rules := fun _ h ↦ (Option.some.inj h).symm }

theorem lawful_record : record.Lawful where
  nodup := by decide
  isSet field hf state state' cs rest h other ho := by
    simp only [record, List.mem_cons, List.not_mem_nil, or_false] at hf ho
    rcases hf with rfl | rfl | rfl | rfl | rfl | rfl | rfl <;>
    · obtain ⟨r, -, heq⟩ := exists_of_map h
      cases heq
      rcases ho with rfl | rfl | rfl | rfl | rfl | rfl | rfl <;> simp

theorem exact_fields : ∀ field ∈ record.fields, ∀ state, Exact (field.read state) := by
  intro field hf state
  have hstring : Exact readString := exact_readStringAs _
  simp only [record, List.mem_cons, List.not_mem_nil, or_false] at hf
  rcases hf with rfl | rfl | rfl | rfl | rfl | rfl | rfl
  · exact hstring.map fun _ ↦ rfl
  · exact hstring.map fun _ ↦ rfl
  · exact TerminalPolicy.exact_read.map fun _ ↦ rfl
  · exact (exact_readList hstring).map fun _ ↦ rfl
  · exact (exact_readList hstring).map fun _ ↦ rfl
  · exact exact_readBool.map fun _ ↦ rfl
  · exact (exact_readList RuleDraft.exact_read).map fun _ ↦ rfl

theorem optional_of_leftOut (t : GrammarTable) :
    ∀ field ∈ record.fields, t.LeftOut field.name → field.optional = true := by
  intro field hf h
  simp only [record, List.mem_cons, List.not_mem_nil, or_false] at hf
  rcases hf with rfl | rfl | rfl | rfl | rfl | rfl | rfl <;> first | rfl | exact h.elim

theorem Partial.Within.complete_eq {t : GrammarTable} {p : Partial} (h : p.Within t)
    (hset : ∀ field ∈ record.fields, field.isSet p = true ∨ t.LeftOut field.name) :
    p.complete = t := by
  simp only [record, List.forall_mem_cons] at hset
  obtain ⟨hstart, hmarker, hpolicy, hpatterns, hliterals, hvalue, hrules, -⟩ := hset
  rw [Partial.complete, getD_eq h.start (hstart.imp_right False.elim),
    getD_eq h.endMarker hmarker, getD_eq h.policy hpolicy, getD_eq h.patterns hpatterns,
    getD_eq h.literals hliterals, getD_eq h.allowLeftRecursion hvalue,
    getD_eq h.rules (hrules.imp_right False.elim)]

theorem understands_read : Understands read Text := by
  intro t text h
  have hempty : ∀ field ∈ record.fields, field.isSet {} = false := by decide
  have hbegun : Partial.Within t {} := ⟨nofun, nofun, nofun, nofun, nofun, nofun, nofun⟩
  obtain ⟨p, hreads, hwithin, hset⟩ := Record.exists_reads lawful_record t.understood_record
    t.optional_of_leftOut hempty hbegun h
  have hread := hreads.map Partial.complete
  rw [hwithin.complete_eq hset] at hread
  exact ⟨h.opens, hread⟩

/-- Whether a value stands in a table where a rule is expected. -/
inductive RulePosition : List Char → List Char → Prop
  | object {members : List (List Char × List Char)} {items : List (List Char)}
      {m : List Char × List Char} {table rule : List Char} (ht : IsObject members table)
      (hm : m ∈ members) (hs : Spells "rules".toList m.1) (ha : IsArray items m.2)
      (hr : rule ∈ items) : RulePosition table rule
  | array {values items : List (List Char)} {table value rule : List Char}
      (ht : IsArray values table) (hv : values[6]? = some value) (ha : IsArray items value)
      (hr : rule ∈ items) : RulePosition table rule

variable {t : GrammarTable} {before table after rule : List Char}

theorem accepts_of_rules {state : Partial} {items : List (List Char)} {value : List Char}
    (h : Accepts (record.fields[6].read state) value) (ha : IsArray items value) :
    ∀ item ∈ items, Accepts RuleDraft.read item := by
  have hlist : Accepts (readList RuleDraft.read) value := h.of_map
  obtain ⟨bs, rest, ⟨rules, rest'⟩, hb, hread⟩ := hlist
  exact (readList_exact RuleDraft.exact_read ha hb hread).2

theorem RulePosition.accepts (hp : RulePosition table rule) (h : Accepts (record.read {}) table) :
    Accepts RuleDraft.read rule := by
  obtain ⟨bs, rest, ⟨p, rest'⟩, hb, hread⟩ := h
  cases hp with
  | @object _ _ m _ _ ht hm hs ha hr =>
    obtain ⟨-, hall, -⟩ := Record.read_object_exact lawful_record exact_fields ht hb hread
    obtain ⟨field, hfield, hnamed, -, state, haccepts⟩ := hall m hm
    have hrules : record.fields[6].Named m.1 := ⟨"rules", List.mem_cons_self, hs⟩
    obtain rfl := lawful_record.eq_of_named (List.getElem_mem _) hfield hrules hnamed
    exact accepts_of_rules haccepts ha rule hr
  | @array _ _ _ value _ ht hv ha hr =>
    obtain ⟨-, hall⟩ := Record.read_array_exact exact_fields ht hb hread
    obtain ⟨state, haccepts⟩ := hall 6 _ value rfl hv
    exact accepts_of_rules haccepts ha rule hr

theorem accepts_of_ofJson (hb : Blanks before)
    (h : ofJson (String.ofList (before ++ (table ++ after))) = .ok t) :
    Accepts (record.read {}) table := by
  rw [ofJson, readAll, String.toList_ofList] at h
  split at h
  · cases h
  · next read rest hread =>
    obtain ⟨r, hr, -⟩ := exists_of_map hread
    exact ⟨before, after, r, hb, hr⟩

theorem ofJson_of_text {text : List Char} (hb : Blanks before) (ha : Blanks after)
    (h : t.Text text) : ofJson (String.ofList (before ++ (text ++ after))) = .ok t := by
  have hread := (understands_read t text h).2 before after hb
  have hempty : (skipBlanks after).isEmpty = true := by
    rw [isEmpty_skipBlanks, decide_eq_true ha]
  simp only [ofJson, readAll, String.toList_ofList, hread, hempty, if_true]

/--
Every text of a table is read as the table, whatever the order of its keys, its spelling and the
defaults that it leaves out. Texts are refused in which the table or one of its rules has a key that
names none of its fields, or two keys that name the same one.
-/
theorem spellings_read_alike_and_strictly :
    (∀ (t : GrammarTable) (before text after : List Char), Blanks before → Blanks after →
      t.Text text → ofJson (String.ofList (before ++ (text ++ after))) = .ok t) ∧
    ∀ before table after : List Char, Blanks before →
      (∀ members, IsObject members table → record.Refuses members →
        ∃ e, ofJson (String.ofList (before ++ (table ++ after))) = .error e) ∧
      ∀ rule members, RulePosition table rule → IsObject members rule →
        RuleDraft.record.Refuses members →
        ∃ e, ofJson (String.ofList (before ++ (table ++ after))) = .error e := by
  refine ⟨fun t before text after hb ha h ↦ ofJson_of_text hb ha h, ?_⟩
  intro before table after hb
  have herror (h : ∀ t, ofJson (String.ofList (before ++ (table ++ after))) ≠ .ok t) :
      ∃ e, ofJson (String.ofList (before ++ (table ++ after))) = .error e := by
    cases hread : ofJson (String.ofList (before ++ (table ++ after))) with
    | error e => exact ⟨e, rfl⟩
    | ok t => exact absurd hread (h t)
  constructor
  · intro members ho hr
    refine herror fun t hread ↦ ?_
    exact Record.not_accepts_of_refuses lawful_record exact_fields ho hr
      (accepts_of_ofJson hb hread)
  · intro rule members hp ho hr
    refine herror fun t hread ↦ ?_
    have haccepts := hp.accepts (accepts_of_ofJson hb hread)
    exact Record.not_accepts_of_refuses RuleDraft.lawful_record RuleDraft.exact_fields ho hr
      haccepts.of_map

def shuffled : GrammarTable where
  start := "/"
  policy := .inferred
  rules := [⟨"/", []⟩]

def shuffledText : String :=
  "\x7b\"rul\\u0065s\" : [[\"/\", []]],\"terminals\":\"inferred\", \"start\": \"\\/\" \x7d"

theorem spells_rules : Spells "rules".toList "rul\\u0065s".toList := by
  have hzero : IsHexDigit 0 '0' := .inl (by decide)
  have he : CharText 'e' _ := .unit (.mk hzero hzero (.inl (by decide) : IsHexDigit 6 '6')
    (.inl (by decide) : IsHexDigit 5 '5'))
  exact .cons (.plain (by decide)) (.cons (.plain (by decide)) (.cons (.plain (by decide))
    (.cons he (.cons (.plain (by decide)) .nil))))

theorem text_shuffledText : shuffled.Text shuffledText.toList := by
  have hblank : Blanks [' '] := by decide
  have hslash : StringText "/" "\"/\"".toList := ⟨"/".toList, by decide, .of_unescaped (by decide)⟩
  have hescaped : StringText "/" "\"\\/\"".toList :=
    ⟨"\\/".toList, by decide, .cons (.short (by decide)) .nil⟩
  have hpolicy : TerminalPolicy.inferred.Text "\"inferred\"".toList :=
    .word ⟨"inferred".toList, by decide, .of_unescaped (by decide)⟩
  have hrule : RuleDraft.Text ⟨"/", []⟩ "[\"/\", []]".toList := by
    have hlist : ListText (ListText StringText) [] "[]".toList :=
      ⟨[], ⟨_, by decide, .done blanks_nil⟩, .nil⟩
    exact .array ⟨_, by decide, .first blanks_nil (.next blanks_nil hblank (.done blanks_nil))⟩
      (.cons hslash (.cons hlist .nil))
  have hrules : ListText RuleDraft.Text [⟨"/", []⟩] "[[\"/\", []]]".toList :=
    ⟨_, ⟨_, by decide, .first blanks_nil (.done blanks_nil)⟩, .cons hrule .nil⟩
  have hobject : ObjectText [("rul\\u0065s".toList, "[[\"/\", []]]".toList),
      ("terminals".toList, "\"inferred\"".toList), ("start".toList, "\"\\/\"".toList)]
      shuffledText.toList :=
    ⟨_, _, by decide, .first blanks_nil (.next blanks_nil blanks_nil
      (.next blanks_nil hblank (.done hblank))),
      .cons ⟨[' '], [' '], hblank, hblank, rfl⟩ (.cons ⟨[], [], blanks_nil, blanks_nil, rfl⟩
        (.cons ⟨[], [' '], blanks_nil, hblank, rfl⟩ .nil))⟩
  have hfield (i : Fin 7) : record.fields[i] ∈ record.fields := List.getElem_mem _
  have hrulesKey : record.fields[6].Named _ := ⟨"rules", by decide, spells_rules⟩
  have hpolicyKey : record.fields[2].Named _ :=
    ⟨"terminals", by decide, .of_unescaped (by decide)⟩
  have hstartKey : record.fields[0].Named _ := ⟨"start", by decide, .of_unescaped (by decide)⟩
  refine .object hobject ?_ ?_ ?_
  · rw [List.forall_mem_cons, List.forall_mem_cons, List.forall_mem_singleton]
    refine ⟨⟨_, hfield 6, hrulesKey, ?_⟩, ⟨_, hfield 2, hpolicyKey, ?_⟩,
      ⟨_, hfield 0, hstartKey, ?_⟩⟩
    · exact (show shuffled.FieldText "rules" _ from hrules)
    · exact (show shuffled.FieldText "terminal_policy" _ from hpolicy)
    · exact (show shuffled.FieldText "start" _ from hescaped)
  · rw [List.pairwise_cons, List.pairwise_cons, List.forall_mem_cons, List.forall_mem_singleton,
      List.forall_mem_singleton]
    refine ⟨⟨?_, ?_⟩, ?_, List.pairwise_singleton _ _⟩
    · exact lawful_record.named_once (hfield 6) (hfield 2) hrulesKey hpolicyKey (by decide)
    · exact lawful_record.named_once (hfield 6) (hfield 0) hrulesKey hstartKey (by decide)
    · exact lawful_record.named_once (hfield 2) (hfield 0) hpolicyKey hstartKey (by decide)
  · simp only [record, List.forall_mem_cons]
    refine ⟨fun h ↦ ?_, fun _ ↦ rfl, fun h ↦ ?_, fun _ ↦ rfl, fun _ ↦ rfl, fun _ ↦ rfl, fun h ↦ ?_,
      nofun⟩
    · exact absurd hstartKey h.2.2.1
    · exact absurd hpolicyKey h.2.1
    · exact absurd hrulesKey h.1

def twice : List (String × Value) :=
  [("start", .string "S"), ("terminals", .string "inferred"),
    ("terminal_policy", .string "literal"), ("rules", .array [])]

theorem refuses_twice : record.Refuses (twice.map (printedMember 1)) := by
  refine .inr ⟨_, _, .cons _ (.cons_cons _ (.cons_cons _ (List.nil_sublist _))), record.fields[2],
    List.getElem_mem _, ?_, ?_⟩
  · exact ⟨"terminals", by decide, spells_flatMap_escapeChar _⟩
  · exact ⟨"terminal_policy", by decide, spells_flatMap_escapeChar _⟩

def ranked : List (String × Value) :=
  [("name", .string "S"), ("rank", .number 0), ("alternatives", .array [])]

theorem refuses_ranked : RuleDraft.record.Refuses (ranked.map (printedMember 3)) :=
  .inl ⟨printedMember 3 ("rank", .number 0), by decide,
    Record.not_named (spells_flatMap_escapeChar "rank".toList) (by decide)⟩

def withRanked : Value :=
  .object [("start", .string "S"), ("rules", .array [.object ranked])]

theorem rulePosition_ranked :
    RulePosition withRanked.render.toList ((Value.object ranked).renderAt 2).toList :=
  .object (isObject_renderAt _ 0) (List.mem_cons_of_mem _ List.mem_cons_self)
    (spells_flatMap_escapeChar _) (isArray_renderAt [.object ranked] 1) List.mem_cons_self

theorem spellings_read_alike_and_strictly_shuffled :
    shuffled.Text shuffledText.toList ∧ ofJson shuffledText = .ok shuffled ∧
    record.Refuses (twice.map (printedMember 1)) ∧
    (∃ e, ofJson (Value.object twice).render = .error e) ∧
    RulePosition withRanked.render.toList ((Value.object ranked).renderAt 2).toList ∧
    RuleDraft.record.Refuses (ranked.map (printedMember 3)) ∧
    ∃ e, ofJson withRanked.render = .error e := by
  obtain ⟨hread, hrefuse⟩ := spellings_read_alike_and_strictly
  have hshuffled := hread shuffled [] _ [] blanks_nil blanks_nil text_shuffledText
  obtain ⟨e, htwice⟩ := (hrefuse [] _ [] blanks_nil).1 _ (isObject_renderAt twice 0) refuses_twice
  obtain ⟨e', hranked⟩ := (hrefuse [] _ [] blanks_nil).2 _ _ rulePosition_ranked
    (isObject_renderAt ranked 2) refuses_ranked
  rw [List.nil_append, List.append_nil, String.ofList_toList] at hshuffled htwice hranked
  exact ⟨text_shuffledText, hshuffled, refuses_twice, ⟨e, htwice⟩, rulePosition_ranked,
    refuses_ranked, ⟨e', hranked⟩⟩

end GrammarTable

end TopDown
