import Mathlib.Data.List.Flatten
import Mathlib.Data.List.Nodup
import Mathlib.Data.List.Pairwise
import TopDown.Proofs.JsonStructure

namespace TopDown.Json

variable {σ : Type}

def Field.Named (field : Field σ) (key : List Char) : Prop :=
  ∃ name ∈ field.name :: field.aliases, Spells name.toList key

theorem Understands.put {α : Type} {element : List Char → Except Error (α × List Char)}
    {Text : α → List Char → Prop} (h : Understands element Text) {a : α} {text : List Char}
    (ht : Text a text) (set : α → σ) {Inv : σ → Prop} (hi : Inv (set a)) :
    Opens text ∧ ∃ state', Reads (fun cs ↦ (element cs).map fun r ↦ (set r.1, r.2)) text state' ∧
      Inv state' := by
  obtain ⟨hopens, hreads⟩ := h a text ht
  exact ⟨hopens, set a, hreads.map set, hi⟩

namespace Record

/-- Records of which each name belongs to one field, and each field, once read, is set. -/
structure Lawful (r : Record σ) : Prop where
  nodup : r.names.Nodup
  isSet : ∀ field ∈ r.fields, ∀ {state state' : σ} {cs rest : List Char},
    field.read state cs = .ok (state', rest) →
      ∀ other ∈ r.fields, other.isSet state' = (other.isSet state || other.name == field.name)

variable {r : Record σ} {state state' : σ} {field other : Field σ} {first : Bool}
  {key inner text rest rest' : List Char} {items texts : List (List Char)}
  {members : List (List Char × List Char)} {m : List Char × List Char}

theorem Lawful.eq_of_mem (hl : r.Lawful) (hf : field ∈ r.fields) (ho : other ∈ r.fields)
    {name : String} (hn : name ∈ field.name :: field.aliases)
    (hn' : name ∈ other.name :: other.aliases) : other = field := by
  by_contra hne
  have hdisjoint := (List.nodup_flatMap.mp hl.nodup).2
  have hsymm : Std.Symm (Function.onFun List.Disjoint
      fun field : Field σ ↦ field.name :: field.aliases) := ⟨fun _ _ h _ hx hy ↦ h hy hx⟩
  exact hdisjoint.forall ho hf hne hn' hn

theorem Lawful.eq_of_named (hl : r.Lawful) (hf : field ∈ r.fields) (ho : other ∈ r.fields)
    (hn : field.Named key) (hn' : other.Named key) : other = field := by
  obtain ⟨name, hmem, hs⟩ := hn
  obtain ⟨name', hmem', hs'⟩ := hn'
  obtain rfl := String.toList_inj.mp (hs.unique hs')
  exact hl.eq_of_mem hf ho hmem hmem'

theorem mem_of_field? {name : String} (h : r.field? name = some field) :
    field ∈ r.fields ∧ name ∈ field.name :: field.aliases := by
  rw [field?] at h
  have hname := List.find?_some h
  exact ⟨List.mem_of_find?_eq_some h, List.contains_iff_mem.mp hname⟩

theorem Lawful.field?_eq (hl : r.Lawful) (hf : field ∈ r.fields) {name : String}
    (hn : name ∈ field.name :: field.aliases) : r.field? name = some field := by
  have hsome : (r.field? name).isSome = true := by
    rw [field?, List.find?_isSome]
    exact ⟨field, hf, List.contains_iff_mem.mpr hn⟩
  obtain ⟨other, hother⟩ := Option.isSome_iff_exists.mp hsome
  obtain ⟨hmem, hname⟩ := mem_of_field? hother
  rw [hother, hl.eq_of_mem hf hmem hn hname]

theorem named_of_field? {s : List Char} (hs : Spells s key)
    (hf : r.field? (String.ofList s) = some field) : field ∈ r.fields ∧ field.Named key := by
  obtain ⟨hmem, hname⟩ := mem_of_field? hf
  refine ⟨hmem, String.ofList s, hname, ?_⟩
  rwa [String.toList_ofList]

theorem Lawful.named_once (hl : r.Lawful) (hf : field ∈ r.fields) (ho : other ∈ r.fields)
    {key' : List Char} (hn : field.Named key) (hn' : other.Named key')
    (hne : field.name ≠ other.name) : ∀ third ∈ r.fields, third.Named key → ¬ third.Named key' := by
  intro third ht h h'
  have hfirst : third = field := hl.eq_of_named hf ht hn h
  have hsecond : third = other := hl.eq_of_named ho ht hn' h'
  exact hne (by rw [← hfirst, hsecond])

theorem not_named {name : String} (hs : Spells name.toList key) (hn : name ∉ r.names) :
    ∀ field ∈ r.fields, ¬ field.Named key := by
  intro field hf h
  obtain ⟨name', hname, hs'⟩ := h
  obtain rfl := String.toList_inj.mp (hs.unique hs')
  exact hn (List.mem_flatMap.mpr ⟨field, hf, hname⟩)

theorem exists_nextKey (hs : Separated '\x7d' first inner (text :: texts))
    (hm : MemberText m text) :
    ∃ bs bs' more, Blanks bs ∧ Blanks bs' ∧ Separated '\x7d' false more texts ∧
      ∀ rest, (m.2 ++ (more ++ rest)).length < (inner ++ rest).length ∧
        nextKey first (inner ++ rest) =
          (stringTail (m.1 ++ '"' :: (bs ++ ':' :: (bs' ++ (m.2 ++ (more ++ rest)))))).map
            fun r ↦ (some r.1, r.2) := by
  obtain ⟨bs, bs', hb, hb', rfl⟩ := hm
  have hquote : isBlank '"' = false := rfl
  have hcomma : isBlank ',' = false := rfl
  cases hs with
  | first hbefore hmore =>
    refine ⟨bs, bs', _, hb, hb', hmore, fun rest ↦ ⟨by simp; omega, ?_⟩⟩
    simp only [nextKey, List.append_assoc, List.cons_append, skipBlanks_append hbefore,
      skipBlanks_cons hquote, if_true]
    rfl
  | next hbefore hafter hmore =>
    refine ⟨bs, bs', _, hb, hb', hmore, fun rest ↦ ⟨by simp; omega, ?_⟩⟩
    simp only [nextKey, List.append_assoc, List.cons_append, skipBlanks_append hbefore,
      skipBlanks_append hafter, skipBlanks_cons hquote, skipBlanks_cons hcomma,
      Bool.false_eq_true, if_false]

/-- Whether the texts for the fields are understood, which keeps an invariant of what is read. -/
def Understood (r : Record σ) (Text : String → List Char → Prop) (Inv : σ → Prop) : Prop :=
  ∀ field ∈ r.fields, ∀ {state : σ} {text : List Char}, Inv state → Text field.name text →
    Opens text ∧ ∃ state', Reads (field.read state) text state' ∧ Inv state'

variable {Text : String → List Char → Prop} {Inv : σ → Prop}

theorem Lawful.eq_of_name (hl : r.Lawful) (hf : field ∈ r.fields) (ho : other ∈ r.fields)
    (hn : other.name = field.name) : other = field :=
  hl.eq_of_mem hf ho List.mem_cons_self (hn ▸ List.mem_cons_self)

theorem Lawful.isSet_iff_named (hl : r.Lawful) (hf : field ∈ r.fields) (hn : field.Named key)
    (hset : other.isSet state' = (other.isSet state || other.name == field.name))
    (ho : other ∈ r.fields) :
    other.isSet state' = true ↔ other.isSet state = true ∨ other.Named key := by
  rw [hset, Bool.or_eq_true, beq_iff_eq]
  refine or_congr_right ⟨fun hname ↦ ?_, fun hnamed ↦ ?_⟩
  · rwa [hl.eq_of_name hf ho hname]
  · rw [hl.eq_of_named hf ho hn hnamed]

theorem Lawful.isSet_of_reads (hl : r.Lawful) (hf : field ∈ r.fields)
    (hr : Reads (field.read state) text state') (ho : other ∈ r.fields) :
    other.isSet state' = (other.isSet state || other.name == field.name) :=
  hl.isSet field hf (hr [] [] blanks_nil) other ho

theorem readFields_of_nextKey (hl : r.Lawful) (hf : field ∈ r.fields) (hn : field.Named key)
    (hunset : field.isSet state = false) (hr : Reads (field.read state) text state')
    {cs bs bs' : List Char} (hb : Blanks bs) (hb' : Blanks bs')
    (hlt : (text ++ rest).length < cs.length)
    (hkey : nextKey first cs =
      (stringTail (key ++ '"' :: (bs ++ ':' :: (bs' ++ (text ++ rest))))).map
        fun r ↦ (some r.1, r.2)) :
    r.readFields first state cs = r.readFields false state' rest := by
  obtain ⟨name, hname, hs⟩ := hn
  have hshort : rest.length < cs.length := by
    rw [List.length_append] at hlt
    omega
  rw [stringTail_of_spells hs] at hkey
  rw [readFields, hkey]
  simp only [Except.map, String.ofList_toList, readField, hl.field?_eq hf hname, hunset,
    Bool.false_eq_true, if_false, readColon_append hb, hr bs' rest hb', if_pos hshort]

/-- Members for different fields are read in whatever order they stand. -/
theorem exists_readFields (hl : r.Lawful) (hu : r.Understood Text Inv)
    (hs : Separated '\x7d' first inner texts) (hm : List.Forall₂ MemberText members texts)
    (hf : ∀ m ∈ members, ∃ field ∈ r.fields, field.Named m.1 ∧ Text field.name m.2)
    (once : members.Pairwise fun m m' ↦ ∀ field ∈ r.fields, field.Named m.1 → ¬ field.Named m'.1)
    (hunset : ∀ m ∈ members, ∀ field ∈ r.fields, field.Named m.1 → field.isSet state = false)
    (hi : Inv state) :
    ∃ state', (∀ rest, r.readFields first state (inner ++ rest) = .ok (state', rest)) ∧
      Inv state' ∧ ∀ field ∈ r.fields, field.isSet state' = true ↔
        field.isSet state = true ∨ ∃ m ∈ members, field.Named m.1 := by
  induction members generalizing first inner texts state with
  | nil =>
    cases hm
    cases hs with
    | done hb =>
      refine ⟨state, fun rest ↦ ?_, hi, fun field hfield ↦ by simp⟩
      rw [List.append_assoc]
      exact readFields_of_closing hb first rest
  | cons m members ih =>
    cases hm with
    | cons hmember hmembers =>
      obtain ⟨bs, bs', more, hb, hb', hmore, hnext⟩ := exists_nextKey hs hmember
      obtain ⟨⟨field, hfield, hnamed, htext⟩, hfs⟩ := List.forall_mem_cons.mp hf
      obtain ⟨honce, honces⟩ := List.pairwise_cons.mp once
      obtain ⟨hnew, hnews⟩ := List.forall_mem_cons.mp hunset
      obtain ⟨-, state₁, hreads, hi₁⟩ := hu field hfield hi htext
      have hset (other : Field σ) (ho : other ∈ r.fields) :
          other.isSet state₁ = true ↔ other.isSet state = true ∨ other.Named m.1 :=
        hl.isSet_iff_named hfield hnamed (hl.isSet_of_reads hfield hreads ho) ho
      -- No later member is for the field that has just been set, as the keys differ.
      have hunset₁ : ∀ m ∈ members, ∀ field ∈ r.fields, field.Named m.1 →
          field.isSet state₁ = false := by
        intro m' hm' other ho hnamed'
        rw [Bool.eq_false_iff, ne_eq, hset other ho, not_or, hnews m' hm' other ho hnamed']
        exact ⟨Bool.false_ne_true, fun hsame ↦ honce m' hm' other ho hsame hnamed'⟩
      obtain ⟨state', hread, hi', hset'⟩ := ih hmore hmembers hfs honces hunset₁ hi₁
      refine ⟨state', fun rest ↦ ?_, hi', fun other ho ↦ ?_⟩
      · obtain ⟨hlt, hkey⟩ := hnext rest
        rw [readFields_of_nextKey hl hfield hnamed (hnew field hfield hnamed) hreads hb hb' hlt
          hkey, hread]
      · rw [hset' other ho, hset other ho, List.exists_mem_cons_iff, or_assoc]

theorem exists_readPositions (hl : r.Lawful) (hu : r.Understood Text Inv) {i : Nat}
    {fields : List (Field σ)} (hf : ∀ field ∈ fields, field ∈ r.fields)
    (hs : Separated ']' (i == 0) inner items)
    (hitems : List.Forall₂ (fun field item ↦ Text field.name item) fields items)
    (hi : Inv state) :
    ∃ state', (∀ rest, r.readPositions i fields state (inner ++ rest) = .ok (state', rest)) ∧
      Inv state' ∧ ∀ field ∈ r.fields, field.isSet state' = true ↔
        field.isSet state = true ∨ field ∈ fields := by
  induction fields generalizing i inner items state with
  | nil =>
    cases hitems
    generalize (i == 0) = first at hs
    cases hs with
    | done hb =>
      refine ⟨state, fun rest ↦ ?_, hi, fun field hfield ↦ by simp⟩
      rw [readPositions, closeList, List.append_assoc, skipBlanks_append hb]
      rfl
  | cons field fields ih =>
    cases hitems with
    | @cons _ item _ items htext hitems =>
      obtain ⟨hfield, hfields⟩ := List.forall_mem_cons.mp hf
      obtain ⟨hopens, state₁, hreads, hi₁⟩ := hu field hfield hi htext
      obtain ⟨more, hmore, hnext⟩ := exists_nextElement hs hopens
      obtain ⟨state', hread, hi', hset'⟩ := ih (i := i + 1) hfields hmore hitems hi₁
      refine ⟨state', fun rest ↦ ?_, hi', fun other ho ↦ ?_⟩
      · have hhere : field.read state (item ++ (more ++ rest)) = .ok (state₁, more ++ rest) :=
          hreads [] _ blanks_nil
        simp only [readPositions, hnext, hhere, hread]
      · rw [hset' other ho, hl.isSet_of_reads hfield hreads ho, Bool.or_eq_true, beq_iff_eq,
          List.mem_cons, or_assoc]
        refine or_congr_right (or_congr_left ⟨fun hname ↦ ?_, fun hsame ↦ hsame ▸ rfl⟩)
        exact hl.eq_of_name hfield ho hname

/--
An object in which every key names a field, no two name the same one, and only fields are left out
that may be, or a list of values for all fields.
-/
inductive RecordText (r : Record σ) (Text : String → List Char → Prop) (LeftOut : String → Prop) :
    List Char → Prop
  | object {members : List (List Char × List Char)} {text : List Char}
      (h : ObjectText members text)
      (fields : ∀ m ∈ members, ∃ field ∈ r.fields, field.Named m.1 ∧ Text field.name m.2)
      (once : members.Pairwise fun m m' ↦
        ∀ field ∈ r.fields, field.Named m.1 → ¬ field.Named m'.1)
      (others : ∀ field ∈ r.fields, (∀ m ∈ members, ¬ field.Named m.1) → LeftOut field.name) :
      RecordText r Text LeftOut text
  | array {items : List (List Char)} {text : List Char} (h : ArrayText items text)
      (fields : List.Forall₂ (fun field item ↦ Text field.name item) r.fields items) :
      RecordText r Text LeftOut text

theorem RecordText.opens {LeftOut : String → Prop} (h : r.RecordText Text LeftOut text) :
    Opens text := by
  cases h with
  | object h =>
    obtain ⟨inner, texts, rfl, -⟩ := h
    exact ⟨_, inner, rfl, rfl, by decide⟩
  | array h =>
    obtain ⟨inner, rfl, -⟩ := h
    exact ⟨_, inner, rfl, rfl, by decide⟩

theorem missing?_eq_none
    (h : ∀ field ∈ r.fields, field.isSet state = true ∨ field.optional = true) :
    r.missing? state = none := by
  rw [missing?, Option.map_eq_none_iff, List.find?_eq_none]
  intro field hfield
  rcases h field hfield with hset | hoptional
  · simp [hset]
  · simp [hoptional]

theorem exists_reads (hl : r.Lawful) (hu : r.Understood Text Inv) {LeftOut : String → Prop}
    (hopt : ∀ field ∈ r.fields, LeftOut field.name → field.optional = true)
    (hempty : ∀ field ∈ r.fields, field.isSet state = false) (hi : Inv state)
    (h : r.RecordText Text LeftOut text) :
    ∃ state', Reads (r.read state) text state' ∧ Inv state' ∧
      ∀ field ∈ r.fields, field.isSet state' = true ∨ LeftOut field.name := by
  cases h with
  | @object members _ h hfields honce hothers =>
    obtain ⟨inner, texts, rfl, hs, hm⟩ := h
    obtain ⟨state', hread, hi', hset⟩ := exists_readFields hl hu hs hm hfields honce
      (fun _ _ field hfield _ ↦ hempty field hfield) hi
    have hall : ∀ field ∈ r.fields, field.isSet state' = true ∨ LeftOut field.name := by
      intro field hfield
      by_cases hnamed : ∃ m ∈ members, field.Named m.1
      · exact .inl ((hset field hfield).mpr (.inr hnamed))
      · exact .inr (hothers field hfield fun m hm hn ↦ hnamed ⟨m, hm, hn⟩)
    have hmissing : r.missing? state' = none :=
      missing?_eq_none fun field hfield ↦ (hall field hfield).imp_right (hopt field hfield)
    refine ⟨state', fun bs rest hb ↦ ?_, hi', hall⟩
    rw [read, skipBlanks_append hb, List.cons_append, skipBlanks_cons rfl]
    simp only [hread, hmissing]
  | array h hfields =>
    obtain ⟨inner, rfl, hs⟩ := h
    obtain ⟨state', hread, hi', hset⟩ :=
      exists_readPositions (i := 0) hl hu (fun _ h ↦ h) hs hfields hi
    refine ⟨state', fun bs rest hb ↦ ?_, hi', fun field hfield ↦ ?_⟩
    · rw [read, skipBlanks_append hb, List.cons_append, skipBlanks_cons rfl]
      exact hread rest
    · exact .inl ((hset field hfield).mpr (.inr hfield))

def Refuses (r : Record σ) (members : List (List Char × List Char)) : Prop :=
  (∃ m ∈ members, ∀ field ∈ r.fields, ¬ field.Named m.1) ∨
    ∃ m m', [m, m'].Sublist members ∧ ∃ field ∈ r.fields, field.Named m.1 ∧ field.Named m'.1

theorem exists_of_readFields {cs more : List Char} {key : List Char}
    (hn : nextKey first cs = .ok (some key, more))
    (h : r.readFields first state cs = .ok (state', rest)) :
    ∃ field state₁ here rest₁, r.field? (String.ofList key) = some field ∧
      field.isSet state = false ∧ readColon more = .ok here ∧
      field.read state here = .ok (state₁, rest₁) ∧
      r.readFields false state₁ rest₁ = .ok (state', rest) := by
  rw [readFields, hn] at h
  simp only at h
  cases hfield : r.readField state (String.ofList key) more with
  | error e =>
    rw [hfield] at h
    cases h
  | ok result =>
    obtain ⟨state₁, rest₁⟩ := result
    simp only [hfield] at h
    split at h
    · rw [readField] at hfield
      split at hfield
      · cases hfield
      · next field hname =>
        split at hfield
        · cases hfield
        · next hunset =>
          split at hfield
          · cases hfield
          · next here hcolon =>
            exact ⟨field, state₁, here, rest₁, hname, Bool.eq_false_iff.mpr hunset, hcolon,
              hfield, h⟩
    · cases h

theorem exists_of_readFields_cons (he : ∀ field ∈ r.fields, ∀ state, Exact (field.read state))
    (hs : Separated '\x7d' first inner (text :: texts)) (hm : MemberText m text)
    (hk : StringBody m.1) (hv : JsonText m.2)
    (h : r.readFields first state (inner ++ rest) = .ok (state', rest')) :
    ∃ field ∈ r.fields, ∃ bs more state₁, field.Named m.1 ∧ field.isSet state = false ∧
      Blanks bs ∧ field.read state (bs ++ (m.2 ++ (more ++ rest))) = .ok (state₁, more ++ rest) ∧
      Separated '\x7d' false more texts ∧
      r.readFields false state₁ (more ++ rest) = .ok (state', rest') := by
  obtain ⟨bs, bs', more, hb, hb', hmore, hnext⟩ := exists_nextKey hs hm
  obtain ⟨-, hnextKey⟩ := hnext rest
  cases htail : stringTail (m.1 ++ '"' :: (bs ++ ':' :: (bs' ++ (m.2 ++ (more ++ rest))))) with
  | error e =>
    rw [readFields, hnextKey, htail] at h
    cases h
  | ok result =>
    obtain ⟨s, after⟩ := result
    obtain ⟨hspelled, rfl⟩ := spells_of_stringTail hk htail
    rw [htail] at hnextKey
    obtain ⟨field, state₁, here, rest₁, hname, hunset, hcolon, hread, hreads⟩ :=
      exists_of_readFields hnextKey h
    rw [readColon_append hb] at hcolon
    cases hcolon
    obtain ⟨hfield, hnamed⟩ := named_of_field? hspelled hname
    obtain rfl := he field hfield state hb' hv hread
    exact ⟨field, hfield, bs', more, state₁, hnamed, hunset, hb', hread, hmore, hreads⟩

theorem readFields_exact (hl : r.Lawful)
    (he : ∀ field ∈ r.fields, ∀ state, Exact (field.read state))
    (hs : Separated '\x7d' first inner texts) (hm : List.Forall₂ MemberText members texts)
    (hk : ∀ m ∈ members, StringBody m.1) (hv : ∀ m ∈ members, JsonText m.2)
    (h : r.readFields first state (inner ++ rest) = .ok (state', rest')) :
    rest' = rest ∧
      (∀ m ∈ members, ∃ field ∈ r.fields, field.Named m.1 ∧ field.isSet state = false ∧
        ∃ state₁, Accepts (field.read state₁) m.2) ∧
      members.Pairwise fun m m' ↦ ∀ field ∈ r.fields, field.Named m.1 → ¬ field.Named m'.1 := by
  induction members generalizing first inner texts state with
  | nil =>
    cases hm
    cases hs with
    | done hb =>
      rw [List.append_assoc, List.singleton_append, readFields_of_closing hb] at h
      cases h
      exact ⟨rfl, fun m hm ↦ absurd hm List.not_mem_nil, .nil⟩
  | cons m members ih =>
    obtain _ | ⟨hmember, hmembers⟩ := hm
    obtain ⟨hkey, hkeys⟩ := List.forall_mem_cons.mp hk
    obtain ⟨hvalue, hvalues⟩ := List.forall_mem_cons.mp hv
    obtain ⟨field, hfield, bs, more, state₁, hnamed, hunset, hb, hread, hmore, hreads⟩ :=
      exists_of_readFields_cons he hs hmember hkey hvalue h
    obtain ⟨hrest, hall, honce⟩ := ih hmore hmembers hkeys hvalues hreads
    have hset (other : Field σ) (ho : other ∈ r.fields) :=
      hl.isSet_iff_named hfield hnamed (hl.isSet field hfield hread other ho) ho
    refine ⟨hrest, List.forall_mem_cons.mpr ⟨?_, ?_⟩, List.pairwise_cons.mpr ⟨?_, honce⟩⟩
    · exact ⟨field, hfield, hnamed, hunset, state, bs, more ++ rest, _, hb, hread⟩
    · intro m' hm'
      obtain ⟨other, ho, hnamed', hunset', haccepts⟩ := hall m' hm'
      refine ⟨other, ho, hnamed', Bool.eq_false_iff.mpr fun hsame ↦ ?_, haccepts⟩
      exact Bool.eq_false_iff.mp hunset' ((hset other ho).mpr (.inl hsame))
    · intro m' hm' other ho hsame hsame'
      obtain ⟨third, ht, hnamed', hunset', -⟩ := hall m' hm'
      obtain rfl := hl.eq_of_named ht ho hnamed' hsame'
      exact Bool.eq_false_iff.mp hunset' ((hset other ho).mpr (.inr hsame))

theorem closeList_exact (hs : Separated ']' first inner items) (hv : ∀ item ∈ items, JsonText item)
    (h : closeList (inner ++ rest) = .ok rest') : items = [] ∧ rest' = rest := by
  cases hs with
  | done hb =>
    rw [closeList, List.append_assoc, skipBlanks_append hb] at h
    cases h
    exact ⟨rfl, rfl⟩
  | first hb _ =>
    obtain ⟨c, cs, rfl, hblank, hne⟩ := (hv _ List.mem_cons_self).opens
    rw [closeList, List.append_assoc, skipBlanks_append hb, List.append_assoc, List.cons_append,
      skipBlanks_cons hblank, expect, if_neg (Ne.symm hne)] at h
    cases h
  | next hb _ _ =>
    rw [closeList, List.append_assoc, skipBlanks_append hb] at h
    cases h

theorem readPositions_exact {i : Nat} {fields : List (Field σ)}
    (he : ∀ field ∈ fields, ∀ state, Exact (field.read state))
    (hs : Separated ']' (i == 0) inner items) (hv : ∀ item ∈ items, JsonText item)
    (h : r.readPositions i fields state (inner ++ rest) = .ok (state', rest')) :
    rest' = rest ∧ ∀ (j : Nat) field item, fields[j]? = some field → items[j]? = some item →
      ∃ state₁, Accepts (field.read state₁) item := by
  induction fields generalizing i inner items state with
  | nil =>
    obtain ⟨after, hclose, heq⟩ := exists_of_map h
    cases heq
    obtain ⟨-, hrest⟩ := closeList_exact hs hv hclose
    exact ⟨hrest, fun j field item hf ↦ by cases hf⟩
  | cons field fields ih =>
    obtain ⟨hfield, hfields⟩ := List.forall_mem_cons.mp he
    rw [readPositions] at h
    cases items with
    | nil =>
      generalize (i == 0) = first at hs h
      cases hs with
      | done hb =>
        rw [List.append_assoc, List.singleton_append, nextElement_closing hb] at h
        simp only at h
        split at h
        · obtain ⟨hrest, -⟩ := ih (i := i + 1) hfields (.done hb) hv
            (by rwa [List.append_assoc, List.singleton_append])
          exact ⟨hrest, fun j field item _ hitem ↦ by cases hitem⟩
        · cases h
    | cons item items =>
      obtain ⟨hitem, hitems⟩ := List.forall_mem_cons.mp hv
      obtain ⟨more, hmore, hnext⟩ := exists_nextElement hs hitem.opens
      simp only [hnext] at h
      cases hread : field.read state (item ++ (more ++ rest)) with
      | error e =>
        rw [hread] at h
        cases h
      | ok result =>
        obtain ⟨state₁, rest₁⟩ := result
        simp only [hread] at h
        obtain rfl := hfield state blanks_nil hitem hread
        obtain ⟨hrest, hall⟩ := ih (i := i + 1) hfields hmore hitems h
        refine ⟨hrest, fun j field' item' hf hi ↦ ?_⟩
        cases j with
        | zero =>
          cases hf
          cases hi
          exact ⟨state, [], more ++ rest, _, blanks_nil, hread⟩
        | succ j => exact hall j field' item' hf hi

section

variable (hl : r.Lawful) (he : ∀ field ∈ r.fields, ∀ state, Exact (field.read state))

include he

theorem read_array_exact (ha : IsArray items text) {bs : List Char} (hb : Blanks bs)
    (h : r.read state (bs ++ (text ++ rest)) = .ok (state', rest')) :
    rest' = rest ∧ ∀ (j : Nat) field item, r.fields[j]? = some field → items[j]? = some item →
      ∃ state₁, Accepts (field.read state₁) item := by
  obtain ⟨inner, rfl, hs⟩ := ha.arrayText
  rw [read, skipBlanks_append hb, List.cons_append, skipBlanks_cons rfl] at h
  exact readPositions_exact (i := 0) he hs ha.items h

include hl

theorem read_object_exact (ho : IsObject members text) {bs : List Char} (hb : Blanks bs)
    (h : r.read state (bs ++ (text ++ rest)) = .ok (state', rest')) :
    rest' = rest ∧
      (∀ m ∈ members, ∃ field ∈ r.fields, field.Named m.1 ∧ field.isSet state = false ∧
        ∃ state₁, Accepts (field.read state₁) m.2) ∧
      members.Pairwise fun m m' ↦ ∀ field ∈ r.fields, field.Named m.1 → ¬ field.Named m'.1 := by
  obtain ⟨inner, texts, rfl, hs, hm⟩ := ho.objectText
  rw [read, skipBlanks_append hb, List.cons_append, skipBlanks_cons rfl] at h
  simp only at h
  split at h
  · cases h
  · next state₁ rest₁ hfields =>
    split at h
    · cases h
    · cases h
      exact readFields_exact hl he hs hm ho.keys ho.values hfields

theorem exact_read (state : σ) : Exact (r.read state) := by
  intro bs text rest rest' state' hb ht h
  obtain ⟨c, cs, rfl, hbegins, hskip⟩ := ht.exists_skipBlanks hb rest
  have hread := h
  rw [read, hskip] at h
  cases hbegins with
  | null | yes | no | string => cases h
  | array ha => exact (read_array_exact he ha hb hread).1
  | object ho => exact (read_object_exact hl he ho hb hread).1
  | number hc =>
    have hne := (ne_of_number hc).2
    split at h
    · next heq =>
      cases heq
      exact absurd (by decide) hne
    · next heq =>
      cases heq
      exact absurd (by decide) hne
    · cases h

theorem not_accepts_of_refuses (ho : IsObject members text) (hr : r.Refuses members) :
    ¬ Accepts (r.read state) text := by
  intro h
  obtain ⟨bs, rest, ⟨state', rest'⟩, hb, hread⟩ := h
  obtain ⟨-, hnamed, honce⟩ := read_object_exact hl he ho hb hread
  rcases hr with ⟨m, hm, hnone⟩ | ⟨m, m', hsub, field, hfield, hn, hn'⟩
  · obtain ⟨field, hfield, hn, -⟩ := hnamed m hm
    exact hnone field hfield hn
  · exact List.pairwise_iff_forall_sublist.mp honce hsub field hfield hn hn'

end

end Record

end TopDown.Json
