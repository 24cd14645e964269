import Mathlib.Data.List.Forall2
import Mathlib.Data.List.TakeWhile
import TopDown.Json.Reader

namespace TopDown.Json

def Blanks (cs : List Char) : Prop :=
  ∀ c ∈ cs, isBlank c = true

instance : DecidablePred Blanks := fun cs ↦
  decidable_of_iff (cs.all isBlank = true) List.all_eq_true

theorem skipBlanks_append {bs : List Char} (hb : Blanks bs) (cs : List Char) :
    skipBlanks (bs ++ cs) = skipBlanks cs :=
  List.dropWhile_append_of_pos hb

theorem skipBlanks_cons {c : Char} (hc : isBlank c = false) (cs : List Char) :
    skipBlanks (c :: cs) = c :: cs :=
  List.dropWhile_cons_of_neg (by rw [hc]; exact Bool.false_ne_true)

theorem isEmpty_skipBlanks (cs : List Char) : (skipBlanks cs).isEmpty = decide (Blanks cs) := by
  rw [skipBlanks, Bool.eq_iff_iff, List.isEmpty_iff, List.dropWhile_eq_nil_iff, decide_eq_true_iff,
    Blanks]

theorem blanks_nil : Blanks [] := nofun

/-- Whether the reader takes a text, after any blanks, for the value, and leaves what follows. -/
def Reads {α : Type} (read : List Char → Except Error (α × List Char)) (text : List Char) (a : α) :
    Prop :=
  ∀ bs rest, Blanks bs → read (bs ++ (text ++ rest)) = .ok (a, rest)

theorem readAll_surrounded {α : Type} {read : List Char → Except Error (α × List Char)}
    {text : String} {a : α} (h : Reads read text.toList a) {before : String}
    (hb : Blanks before.toList) (after : String) :
    readAll read (before ++ text ++ after) =
      if Blanks after.toList then .ok a else .error .malformed := by
  have hread : read (before ++ text ++ after).toList = .ok (a, after.toList) := by
    rw [String.toList_append, String.toList_append, List.append_assoc]
    exact h before.toList after.toList hb
  simp only [readAll, hread, isEmpty_skipBlanks, decide_eq_true_eq]

theorem reads_readBool (value : Bool) :
    Reads readBool (if value then "true" else "false").toList value := by
  intro bs rest hb
  unfold readBool
  rw [skipBlanks_append hb]
  cases value <;> rfl

theorem readColon_append {bs : List Char} (hb : Blanks bs) (rest : List Char) :
    readColon (bs ++ ':' :: rest) = .ok rest := by
  unfold readColon
  rw [skipBlanks_append hb]
  rfl

theorem stringTail_of_none {cs rest : List Char} (h : stringChar cs = .ok (none, rest)) :
    stringTail cs = .ok ([], rest) := by
  rw [stringTail]
  split
  · next h' => cases h.symm.trans h'
  · next h' =>
    cases h.symm.trans h'
    rfl
  · next h' => cases h.symm.trans h'

theorem stringTail_of_some {cs rest : List Char} {c : Char}
    (h : stringChar cs = .ok (some c, rest)) :
    stringTail cs = (stringTail rest).map fun r ↦ (c :: r.1, r.2) := by
  rw [stringTail]
  split
  · next h' => cases h.symm.trans h'
  · next h' => cases h.symm.trans h'
  · next h' =>
    cases h.symm.trans h'
    rfl

/--
Items with commas between them and the closing bracket after them. Blanks may stand around all of
these; `first` says that no item comes before.
-/
inductive Separated (closing : Char) : Bool → List Char → List (List Char) → Prop
  | done {first : Bool} {bs : List Char} (hb : Blanks bs) :
      Separated closing first (bs ++ [closing]) []
  | first {bs text more : List Char} {texts : List (List Char)} (hb : Blanks bs)
      (rest : Separated closing false more texts) :
      Separated closing true (bs ++ (text ++ more)) (text :: texts)
  | next {bs bs' text more : List Char} {texts : List (List Char)} (hb : Blanks bs)
      (hb' : Blanks bs') (rest : Separated closing false more texts) :
      Separated closing false (bs ++ ',' :: (bs' ++ (text ++ more))) (text :: texts)

def Opens (text : List Char) : Prop :=
  ∃ c cs, text = c :: cs ∧ isBlank c = false ∧ c ≠ ']'

theorem Opens.length_pos {text : List Char} (h : Opens text) : 0 < text.length := by
  obtain ⟨c, cs, rfl, -, -⟩ := h
  exact Nat.succ_pos _

variable {α : Type} {element : List Char → Except Error (α × List Char)}

theorem nextElement_closing {bs : List Char} (hb : Blanks bs) (first : Bool) (rest : List Char) :
    nextElement first (bs ++ ']' :: rest) = .ok none := by
  unfold nextElement
  rw [skipBlanks_append hb]
  rfl

theorem nextElement_first {bs text : List Char} (hb : Blanks bs) (ht : Opens text)
    (rest : List Char) : nextElement true (bs ++ (text ++ rest)) = .ok (some (text ++ rest)) := by
  obtain ⟨c, cs, rfl, hc, hne⟩ := ht
  unfold nextElement
  rw [skipBlanks_append hb, List.cons_append, skipBlanks_cons hc]
  split <;> simp_all

theorem nextElement_comma {bs bs' text : List Char} (hb : Blanks bs) (hb' : Blanks bs')
    (ht : Opens text) (rest : List Char) :
    nextElement false (bs ++ ',' :: (bs' ++ (text ++ rest))) = .ok (some (text ++ rest)) := by
  obtain ⟨c, cs, rfl, hc, hne⟩ := ht
  unfold nextElement
  rw [skipBlanks_append hb, skipBlanks_cons rfl]
  simp only [Bool.false_eq_true, if_false, skipBlanks_append hb', List.cons_append,
    skipBlanks_cons hc]
  split <;> simp_all

theorem readElements_of_closing {bs : List Char} (hb : Blanks bs) (first : Bool)
    (rest : List Char) : readElements element first (bs ++ ']' :: rest) = .ok ([], rest) := by
  rw [readElements, nextElement_closing hb]
  simp only [closeList, skipBlanks_append hb]
  rfl

theorem readElements_of_next {cs rest : List Char} {text : List Char} {a : α} {first : Bool}
    (hn : nextElement first cs = .ok (some (text ++ rest))) (ht : Opens text)
    (hr : Reads element text a) (hle : (text ++ rest).length ≤ cs.length) :
    readElements element first cs =
      (readElements element false rest).map fun r ↦ (a :: r.1, r.2) := by
  have hread : element (text ++ rest) = .ok (a, rest) := hr [] rest blanks_nil
  have hlt : rest.length < cs.length := by
    have := ht.length_pos
    rw [List.length_append] at hle
    omega
  rw [readElements, hn]
  simp only [hread, if_pos hlt]

theorem readElements_of_separated {first : Bool} {text : List Char} {texts : List (List Char)}
    {as : List α} (hs : Separated ']' first text texts)
    (h : List.Forall₂ (fun text a ↦ Opens text ∧ Reads element text a) texts as)
    (rest : List Char) : readElements element first (text ++ rest) = .ok (as, rest) := by
  induction hs generalizing as with
  | done hb =>
    cases h
    rw [List.append_assoc]
    exact readElements_of_closing hb _ rest
  | first hb _ ih =>
    obtain _ | ⟨⟨ho, hr⟩, h⟩ := h
    rw [List.append_assoc, List.append_assoc,
      readElements_of_next (nextElement_first hb ho _) ho hr (by simp), ih h]
    rfl
  | next hb hb' _ ih =>
    obtain _ | ⟨⟨ho, hr⟩, h⟩ := h
    rw [List.append_assoc, List.cons_append, List.append_assoc, List.append_assoc,
      readElements_of_next (nextElement_comma hb hb' ho _) ho hr (by simp; omega), ih h]
    rfl

namespace Record

variable {σ : Type} {r : Record σ} {state : σ}

theorem nextKey_closing {bs : List Char} (hb : Blanks bs) (first : Bool) (rest : List Char) :
    nextKey first (bs ++ '\x7d' :: rest) = .ok (none, rest) := by
  unfold nextKey
  rw [skipBlanks_append hb]
  rfl

theorem readFields_of_closing {bs : List Char} (hb : Blanks bs) (first : Bool)
    (rest : List Char) : r.readFields first state (bs ++ '\x7d' :: rest) = .ok (state, rest) := by
  rw [readFields, nextKey_closing hb]

end Record

end TopDown.Json
