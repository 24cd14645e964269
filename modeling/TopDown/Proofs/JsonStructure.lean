import TopDown.Proofs.JsonSpelling

namespace TopDown.Json

variable {c : Char} {s : String} {b : Bool} {body text rest : List Char} {items : List (List Char)}
  {members : List (List Char × List Char)} {α : Type}
  {element : List Char → Except Error (α × List Char)}

def StringText (s : String) (text : List Char) : Prop :=
  ∃ body, text = '"' :: (body ++ ['"']) ∧ Spells s.toList body

def BoolText (b : Bool) (text : List Char) : Prop :=
  text = (if b then "true" else "false").toList

def ArrayText (items : List (List Char)) (text : List Char) : Prop :=
  ∃ inner, text = '[' :: inner ∧ Separated ']' true inner items

def MemberText (m : List Char × List Char) (text : List Char) : Prop :=
  ∃ bs bs', Blanks bs ∧ Blanks bs' ∧ text = '"' :: (m.1 ++ '"' :: (bs ++ ':' :: (bs' ++ m.2)))

def ObjectText (members : List (List Char × List Char)) (text : List Char) : Prop :=
  ∃ inner texts, text = '\x7b' :: inner ∧ Separated '\x7d' true inner texts ∧
    List.Forall₂ MemberText members texts

def Digits (ds : List Char) : Prop :=
  ds ≠ [] ∧ ∀ d ∈ ds, d.isDigit = true

inductive NumberText : List Char → Prop
  | mk {sign whole fraction exponent : List Char} (hs : sign = [] ∨ sign = ['-'])
      (hw : whole = ['0'] ∨ Digits whole ∧ whole.head? ≠ some '0')
      (hf : fraction = [] ∨ ∃ ds, Digits ds ∧ fraction = '.' :: ds)
      (he : exponent = [] ∨ ∃ e sign ds, (e = 'e' ∨ e = 'E') ∧
        (sign = [] ∨ sign = ['+'] ∨ sign = ['-']) ∧ Digits ds ∧ exponent = e :: (sign ++ ds)) :
      NumberText (sign ++ (whole ++ (fraction ++ exponent)))

inductive JsonText : List Char → Prop
  | null : JsonText "null".toList
  | bool (b : Bool) : JsonText (if b then "true" else "false").toList
  | number {text : List Char} (h : NumberText text) : JsonText text
  | string {body : List Char} (h : StringBody body) : JsonText ('"' :: (body ++ ['"']))
  | array {items : List (List Char)} {text : List Char} (h : ArrayText items text)
      (hi : ∀ item ∈ items, JsonText item) : JsonText text
  | object {members : List (List Char × List Char)} {text : List Char} (h : ObjectText members text)
      (hk : ∀ m ∈ members, StringBody m.1) (hv : ∀ m ∈ members, JsonText m.2) : JsonText text

structure IsArray (items : List (List Char)) (text : List Char) : Prop where
  arrayText : ArrayText items text
  items : ∀ item ∈ items, JsonText item

structure IsObject (members : List (List Char × List Char)) (text : List Char) : Prop where
  objectText : ObjectText members text
  keys : ∀ m ∈ members, StringBody m.1
  values : ∀ m ∈ members, JsonText m.2

theorem NumberText.exists_head (h : NumberText text) :
    ∃ c cs, text = c :: cs ∧ (c = '-' ∨ c.isDigit = true) := by
  obtain ⟨hs, hw, -, -⟩ := h
  rcases hs with rfl | rfl
  · rcases hw with rfl | ⟨⟨hne, hd⟩, -⟩
    · exact ⟨'0', _, rfl, .inr rfl⟩
    · obtain ⟨d, ds, rfl⟩ := List.exists_cons_of_ne_nil hne
      exact ⟨d, _, rfl, .inr (hd d List.mem_cons_self)⟩
  · exact ⟨'-', _, rfl, .inl rfl⟩

/-- The first character tells what kind of value follows. -/
inductive Begins : Char → List Char → Prop
  | null : Begins 'n' "ull".toList
  | yes : Begins 't' "rue".toList
  | no : Begins 'f' "alse".toList
  | number {c : Char} {cs : List Char} (h : c = '-' ∨ c.isDigit = true) : Begins c cs
  | string {body : List Char} (h : StringBody body) : Begins '"' (body ++ ['"'])
  | array {items : List (List Char)} {cs : List Char} (h : IsArray items ('[' :: cs)) :
      Begins '[' cs
  | object {members : List (List Char × List Char)} {cs : List Char}
      (h : IsObject members ('\x7b' :: cs)) : Begins '\x7b' cs

theorem JsonText.exists_begins (h : JsonText text) : ∃ c cs, text = c :: cs ∧ Begins c cs := by
  cases h with
  | null => exact ⟨_, _, rfl, .null⟩
  | bool b =>
    cases b with
    | false => exact ⟨_, _, rfl, .no⟩
    | true => exact ⟨_, _, rfl, .yes⟩
  | number h =>
    obtain ⟨c, cs, rfl, hc⟩ := h.exists_head
    exact ⟨c, cs, rfl, .number hc⟩
  | string h => exact ⟨_, _, rfl, .string h⟩
  | array h hi =>
    obtain ⟨inner, rfl, hs⟩ := h
    exact ⟨_, inner, rfl, .array ⟨⟨inner, rfl, hs⟩, hi⟩⟩
  | object h hk hv =>
    obtain ⟨inner, texts, rfl, hs, hm⟩ := h
    exact ⟨_, inner, rfl, .object ⟨⟨inner, texts, rfl, hs, hm⟩, hk, hv⟩⟩

theorem ne_of_number (h : c = '-' ∨ c.isDigit = true) :
    isBlank c = false ∧ c ∉ ['"', '[', ']', '\x7b', 't', 'f', 'n'] := by
  constructor
  · rcases h with rfl | h
    · rfl
    · simp only [isBlank, Bool.or_eq_false_iff, beq_eq_false_iff_ne]
      refine ⟨⟨⟨?_, ?_⟩, ?_⟩, ?_⟩ <;>
        · rintro rfl
          cases h
  · intro hmem
    rcases h with rfl | h
    · revert hmem
      decide
    · have hall : ∀ d ∈ ['"', '[', ']', '\x7b', 't', 'f', 'n'], d.isDigit = false := by simp
      cases h.symm.trans (hall c hmem)

theorem Begins.not_blank {cs : List Char} (h : Begins c cs) : isBlank c = false ∧ c ≠ ']' := by
  cases h with
  | number h =>
    obtain ⟨hblank, hne⟩ := ne_of_number h
    refine ⟨hblank, fun hc ↦ hne ?_⟩
    rw [hc]
    decide
  | null | yes | no | string | array | object => exact ⟨rfl, by decide⟩

theorem JsonText.opens (h : JsonText text) : Opens text := by
  obtain ⟨c, cs, rfl, hbegins⟩ := h.exists_begins
  exact ⟨c, cs, rfl, hbegins.not_blank⟩

theorem JsonText.exists_skipBlanks (h : JsonText text) {bs : List Char} (hb : Blanks bs)
    (rest : List Char) :
    ∃ c cs, text = c :: cs ∧ Begins c cs ∧
      skipBlanks (bs ++ (text ++ rest)) = c :: (cs ++ rest) := by
  obtain ⟨c, cs, rfl, hbegins⟩ := h.exists_begins
  refine ⟨c, cs, rfl, hbegins, ?_⟩
  rw [skipBlanks_append hb, List.cons_append, skipBlanks_cons hbegins.not_blank.1]

/-- Whether the reader leaves just what follows, if it takes a value at all. -/
def Exact (read : List Char → Except Error (α × List Char)) : Prop :=
  ∀ ⦃bs text rest rest' : List Char⦄ ⦃a : α⦄, Blanks bs → JsonText text →
    read (bs ++ (text ++ rest)) = .ok (a, rest') → rest' = rest

theorem exists_of_map {β : Type} {x : Except Error α} {f : α → β} {b : β} (h : x.map f = .ok b) :
    ∃ a, x = .ok a ∧ f a = b := by
  cases x with
  | error e => cases h
  | ok a =>
    cases h
    exact ⟨a, rfl, rfl⟩

theorem exact_readStringAs (expected : String) : Exact (readStringAs expected) := by
  intro bs text rest rest' a hb ht h
  obtain ⟨c, cs, rfl, hbegins, hskip⟩ := ht.exists_skipBlanks hb rest
  rw [readStringAs, hskip] at h
  cases hbegins with
  | null | yes | no | array | object => cases h
  | number hc =>
    have hne := (ne_of_number hc).2
    split at h
    · next heq =>
      cases heq
      exact absurd List.mem_cons_self hne
    · cases h
  | @string body hbody =>
    rw [List.append_assoc] at h
    obtain ⟨r, htail, heq⟩ := exists_of_map h
    cases heq
    exact (spells_of_stringTail hbody htail).2

theorem exact_readBool : Exact readBool := by
  intro bs text rest rest' a hb ht h
  obtain ⟨c, cs, rfl, hbegins, hskip⟩ := ht.exists_skipBlanks hb rest
  rw [readBool, hskip] at h
  cases hbegins with
  | null | string | array | object => cases h
  | yes | no =>
    cases h
    rfl
  | number hc =>
    have hne := (ne_of_number hc).2
    split at h
    · next heq =>
      cases heq
      exact absurd (by decide) hne
    · next heq =>
      cases heq
      exact absurd (by decide) hne
    · cases h

theorem exact_readNull : Exact readNull := by
  intro bs text rest rest' a hb ht h
  obtain ⟨c, cs, rfl, hbegins, hskip⟩ := ht.exists_skipBlanks hb rest
  rw [readNull, hskip] at h
  cases hbegins with
  | yes | no | string | array | object => cases h
  | null =>
    cases h
    rfl
  | number hc =>
    have hne := (ne_of_number hc).2
    split at h
    · next heq =>
      cases heq
      exact absurd (by decide) hne
    · cases h

theorem Exact.map {β : Type} (h : Exact element) {f : α × List Char → β × List Char}
    (hf : ∀ r, (f r).2 = r.2) : Exact fun cs ↦ (element cs).map f := by
  intro bs text rest rest' b hb ht hread
  obtain ⟨r, hr, hb'⟩ := exists_of_map hread
  have hrest : r.2 = rest' := by rw [← hf, hb']
  exact hrest ▸ h hb ht hr

def Accepts (read : List Char → Except Error (α × List Char)) (text : List Char) : Prop :=
  ∃ bs rest r, Blanks bs ∧ read (bs ++ (text ++ rest)) = .ok r

theorem Accepts.of_map {β : Type} {f : α × List Char → β × List Char}
    (h : Accepts (fun cs ↦ (element cs).map f) text) : Accepts element text := by
  obtain ⟨bs, rest, r, hb, hread⟩ := h
  obtain ⟨r', hr, -⟩ := exists_of_map hread
  exact ⟨bs, rest, r', hb, hr⟩

theorem exists_of_readElements {cs here rest : List Char} {first : Bool} {as : List α}
    (hn : nextElement first cs = .ok (some here))
    (h : readElements element first cs = .ok (as, rest)) :
    ∃ a more as', element here = .ok (a, more) ∧
      readElements element false more = .ok (as', rest) := by
  rw [readElements, hn] at h
  simp only at h
  split at h
  · cases h
  · next a more hread =>
    split at h
    · obtain ⟨r, hmore, heq⟩ := exists_of_map h
      cases heq
      exact ⟨a, more, r.1, hread, hmore⟩
    · cases h

theorem exists_nextElement {first : Bool} {inner item : List Char}
    (hs : Separated ']' first inner (item :: items)) (ho : Opens item) :
    ∃ more, Separated ']' false more items ∧ ∀ rest,
      nextElement first (inner ++ rest) = .ok (some (item ++ (more ++ rest))) := by
  cases hs with
  | @first bs _ more _ hb hmore =>
    refine ⟨more, hmore, fun rest ↦ ?_⟩
    rw [List.append_assoc, List.append_assoc]
    exact nextElement_first hb ho (more ++ rest)
  | @next bs bs' _ more _ hb hb' hmore =>
    refine ⟨more, hmore, fun rest ↦ ?_⟩
    rw [List.append_assoc, List.cons_append, List.append_assoc, List.append_assoc]
    exact nextElement_comma hb hb' ho (more ++ rest)

theorem readElements_exact (he : Exact element) {first : Bool} {inner rest rest' : List Char}
    {as : List α} (hs : Separated ']' first inner items) (hi : ∀ item ∈ items, JsonText item)
    (h : readElements element first (inner ++ rest) = .ok (as, rest')) :
    rest' = rest ∧ ∀ item ∈ items, Accepts element item := by
  induction items generalizing first inner as with
  | nil =>
    cases hs with
    | done hb =>
      rw [List.append_assoc, List.singleton_append, readElements_of_closing hb] at h
      cases h
      exact ⟨rfl, fun item hm ↦ absurd hm List.not_mem_nil⟩
  | cons item items ih =>
    obtain ⟨hitem, hitems⟩ := List.forall_mem_cons.mp hi
    obtain ⟨more, hmore, hnext⟩ := exists_nextElement hs hitem.opens
    obtain ⟨a, left, as', hread, hreads⟩ := exists_of_readElements (hnext rest) h
    obtain rfl := he blanks_nil hitem hread
    obtain ⟨hrest, hall⟩ := ih hmore hitems hreads
    exact ⟨hrest, List.forall_mem_cons.mpr ⟨⟨[], more ++ rest, _, blanks_nil, hread⟩, hall⟩⟩

theorem readList_exact (he : Exact element) (ha : IsArray items text) {bs rest rest' : List Char}
    {as : List α} (hb : Blanks bs)
    (h : readList element (bs ++ (text ++ rest)) = .ok (as, rest')) :
    rest' = rest ∧ ∀ item ∈ items, Accepts element item := by
  obtain ⟨inner, rfl, hs⟩ := ha.arrayText
  rw [readList, skipBlanks_append hb, List.cons_append, skipBlanks_cons rfl] at h
  exact readElements_exact he hs ha.items h

theorem exact_readList (he : Exact element) : Exact (readList element) := by
  intro bs text rest rest' as hb ht h
  obtain ⟨c, cs, rfl, hbegins, hskip⟩ := ht.exists_skipBlanks hb rest
  have hread := h
  rw [readList, hskip] at h
  cases hbegins with
  | null | yes | no | string | object => cases h
  | array ha => exact (readList_exact he ha hb hread).1
  | number hc =>
    have hne := (ne_of_number hc).2
    split at h
    · next heq =>
      cases heq
      exact absurd (by decide) hne
    · cases h

def Understands (read : List Char → Except Error (α × List Char)) (Text : α → List Char → Prop) :
    Prop :=
  ∀ a text, Text a text → Opens text ∧ Reads read text a

def ListText (Text : α → List Char → Prop) (as : List α) (text : List Char) : Prop :=
  ∃ items, ArrayText items text ∧ List.Forall₂ Text as items

theorem understands_readStringAs (expected : String) :
    Understands (readStringAs expected) StringText := by
  intro s text h
  obtain ⟨body, rfl, hs⟩ := h
  refine ⟨⟨'"', _, rfl, rfl, by decide⟩, fun bs rest hb ↦ ?_⟩
  rw [readStringAs, skipBlanks_append hb, List.cons_append, skipBlanks_cons rfl, List.append_assoc,
    List.singleton_append]
  simp only [stringTail_of_spells hs, Except.map, String.ofList_toList]

theorem understands_readBool : Understands readBool BoolText := by
  intro b text h
  subst h
  refine ⟨?_, reads_readBool b⟩
  cases b with
  | false => exact ⟨'f', _, rfl, rfl, by decide⟩
  | true => exact ⟨'t', _, rfl, rfl, by decide⟩

theorem Reads.map {β : Type} {a : α} (h : Reads element text a) (f : α → β) :
    Reads (fun cs ↦ (element cs).map fun r ↦ (f r.1, r.2)) text (f a) := by
  intro bs rest hb
  simp only [h bs rest hb, Except.map]

theorem reads_readNull : Reads readNull "null".toList () := by
  intro bs rest hb
  rw [readNull, skipBlanks_append hb]
  rfl

theorem Understands.readList {Text : α → List Char → Prop} (h : Understands element Text) :
    Understands (readList element) (ListText Text) := by
  intro as text ha
  obtain ⟨items, ⟨inner, rfl, hs⟩, hall⟩ := ha
  refine ⟨⟨'[', inner, rfl, rfl, by decide⟩, fun bs rest hb ↦ ?_⟩
  have hitems : List.Forall₂ (fun text a ↦ Opens text ∧ Reads element text a) items as :=
    (hall.imp fun a item hitem ↦ h a item hitem).flip
  rw [Json.readList, skipBlanks_append hb, List.cons_append, skipBlanks_cons rfl]
  exact readElements_of_separated hs hitems rest

end TopDown.Json
