import Mathlib.Data.List.Basic
import Mathlib.Data.List.Nodup
import Mathlib.Tactic.Common
import TopDown.Proofs.MatchTable
import TopDown.Tokenizer

namespace TopDown

open Unicode (isBlank)

namespace Regex

variable {size start i k : Nat} {span : Span} {spans : List Span}

def Span.covers (span : Span) (k : Nat) : Bool :=
  span.start ≤ k && k < span.stop

theorem Span.covers_iff : span.covers k = true ↔ span.start ≤ k ∧ k < span.stop := by
  simp [Span.covers]

/-- Spans of a text of the given size that follow each other from `i` on. -/
inductive Ascends (size : Nat) : Nat → List Span → Prop
  | nil {i : Nat} (hi : i ≤ size) : Ascends size i []
  | cons {i : Nat} {span : Span} {spans : List Span} (hi : i ≤ span.start)
      (hle : span.start ≤ span.stop) (rest : Ascends size span.stop spans) :
      Ascends size i (span :: spans)

namespace Ascends

theorem le_size (h : Ascends size i spans) : i ≤ size := by
  induction h with
  | nil hi => exact hi
  | cons hi hle _ ih => omega

theorem bounds (h : Ascends size i spans) (hm : span ∈ spans) :
    i ≤ span.start ∧ span.start ≤ span.stop ∧ span.stop ≤ size := by
  induction h with
  | nil => cases hm
  | cons hi hle rest ih =>
    rcases List.mem_cons.mp hm with rfl | hm
    · exact ⟨hi, hle, rest.le_size⟩
    · have := ih hm
      omega

theorem pairwise (h : Ascends size i spans) : spans.Pairwise (·.stop ≤ ·.start) := by
  induction h with
  | nil => exact .nil
  | cons hi hle rest ih => exact List.pairwise_cons.mpr ⟨fun _ hm ↦ (rest.bounds hm).1, ih⟩

theorem not_covers_of_lt (h : Ascends size i spans) (hk : k < i) (hm : span ∈ spans) :
    span.covers k = false := by
  have := (h.bounds hm).1
  simp only [Span.covers, Bool.and_eq_false_iff, decide_eq_false_iff_not]
  omega

theorem countP_covers (h : Ascends size i spans) (k : Nat) :
    spans.countP (·.covers k) = if spans.any (·.covers k) then 1 else 0 := by
  induction h with
  | nil => rfl
  | @cons i span spans hi hle rest ih =>
    rw [List.countP_cons, ih, List.any_cons]
    cases hc : span.covers k with
    | false => simp
    | true =>
      have hlt := (Span.covers_iff.mp hc).2
      have hrest : spans.any (·.covers k) = false := by
        rw [List.any_eq_false]
        intro other hm
        rw [rest.not_covers_of_lt hlt hm]
        exact Bool.false_ne_true
      simp [hrest]

end Ascends

namespace EndTable

variable {t : EndTable}

theorem start_le_of_findNext? (h : t.findNext? start = some span) : start ≤ span.start := by
  unfold findNext? at h
  split at h
  · next found hfound =>
    split at h
    · have := (isFirst_of_find? h).1
      omega
    · cases h
      exact (isFirst_of_find? hfound).1
  · cases h

end EndTable

variable {s : Text} {r : Regex}

theorem bounds_of_isFirst (h : (table s r).IsFirst span) :
    span.start ≤ span.stop ∧ span.stop ≤ s.size := by
  rw [isFirst_table] at h
  have hm := List.mem_of_head? h.2
  exact ⟨le_of_mem_ends hm, le_size_of_mem_ends h.1 hm⟩

theorem ascends_findAfter (hi : i ≤ s.size) : Ascends s.size i ((table s r).findAfter i) := by
  fun_induction EndTable.findAfter (table s r) i with
  | case1 i span hfound hgo ih =>
    have hb := bounds_of_isFirst (EndTable.isFirst_of_findNext? hfound)
    exact .cons (EndTable.start_le_of_findNext? hfound) hb.1 (ih hb.2)
  | case2 i span hfound hstop =>
    have hb := bounds_of_isFirst (EndTable.isFirst_of_findNext? hfound)
    exact .cons (EndTable.start_le_of_findNext? hfound) hb.1 (.nil hb.2)
  | case3 => exact .nil hi

theorem ascends_findAll (r : Regex) (s : Text) : Ascends s.size 0 (r.findAll s) := by
  unfold findAll EndTable.findAll
  split
  · next span hfound =>
    have hb := bounds_of_isFirst (EndTable.isFirst_of_find? hfound).2
    exact .cons (Nat.zero_le _) hb.1 (ascends_findAfter hb.2)
  · exact .nil (Nat.zero_le _)

end Regex

open Regex

namespace Tokenizer

variable {size i k number : Nat} {spans : List Span} {row : List Char} {e : UnexpectedChar}

def places (span : Span) : List Nat :=
  List.range' span.start (span.stop - span.start)

theorem filter_places_of_not_covers (n : Nat)
    (h : ∀ k, i ≤ k → k < i + n → ∀ span ∈ spans, span.covers k = false) :
    (List.range' i n).filter (fun k ↦ !spans.any (·.covers k)) = List.range' i n := by
  rw [List.filter_eq_self]
  intro k hk
  rw [List.mem_range'_1] at hk
  rw [Bool.not_eq_true', List.any_eq_false]
  intro span hm
  rw [h k hk.1 hk.2 span hm]
  exact Bool.false_ne_true

theorem flatMap_places_gaps (h : Ascends size i spans) :
    (gaps size i spans).flatMap places =
      (List.range' i (size - i)).filter fun k ↦ !spans.any (·.covers k) := by
  induction h with
  | nil => simp [gaps, places]
  | @cons i span spans hi hle rest ih =>
    have hsize := rest.le_size
    -- The head leaves the places before it, takes its own, and has no say about those after it.
    have hsplit : List.range' i (size - i) = List.range' i (span.start - i) ++
        (List.range' span.start (span.stop - span.start) ++
          List.range' span.stop (size - span.stop)) := by
      have hlast := @List.range'_append_1 span.start (span.stop - span.start) (size - span.stop)
      have hfirst := @List.range'_append_1 i (span.start - i) (size - span.start)
      rw [Nat.add_sub_cancel' hle,
        show span.stop - span.start + (size - span.stop) = size - span.start by omega] at hlast
      rw [Nat.add_sub_cancel' hi,
        show span.start - i + (size - span.start) = size - i by omega] at hfirst
      rw [hlast, hfirst]
    have hbefore : ∀ k, i ≤ k → k < i + (span.start - i) →
        ∀ other ∈ span :: spans, other.covers k = false := by
      intro k _ hk other hm
      exact (Ascends.cons (Nat.le_refl span.start) hle rest).not_covers_of_lt (by omega) hm
    have hwithin : (List.range' span.start (span.stop - span.start)).filter
        (fun k ↦ !(span :: spans).any (·.covers k)) = [] := by
      rw [List.filter_eq_nil_iff]
      intro k hk
      rw [List.mem_range'_1] at hk
      have hc : span.covers k = true := Span.covers_iff.mpr ⟨hk.1, by omega⟩
      simp [hc]
    have hafter : (List.range' span.stop (size - span.stop)).filter
        (fun k ↦ !(span :: spans).any (·.covers k)) =
          (List.range' span.stop (size - span.stop)).filter fun k ↦ !spans.any (·.covers k) := by
      apply List.filter_congr
      intro k hk
      rw [List.mem_range'_1] at hk
      have hc : span.covers k = false := by
        simp only [Span.covers, Bool.and_eq_false_iff, decide_eq_false_iff_not]
        omega
      rw [List.any_cons, hc, Bool.false_or]
    rw [gaps, Nat.max_eq_right (Nat.le_trans hi hle), List.flatMap_cons, ih, hsplit,
      List.filter_append, List.filter_append, filter_places_of_not_covers _ hbefore, hwithin,
      hafter, List.nil_append]
    rfl

def report? (number : Nat) (row : List Char) (k : Nat) : Option UnexpectedChar :=
  match row.toArray[k]? with
  | some c => if isBlank c then none else some ⟨c, number, k + 1⟩
  | none => none

theorem report?_eq_some_iff : report? number row k = some e ↔
    row[k]? = some e.char ∧ isBlank e.char = false ∧ e.line = number ∧ e.column = k + 1 := by
  obtain ⟨c, l, column⟩ := e
  unfold report?
  rw [List.getElem?_toArray]
  cases row[k]? with
  | none => simp
  | some d =>
    cases hb : isBlank d with
    | true => simp; grind
    | false => simp; grind

variable (t : Tokenizer)

def matched (row : List Char) (k : Nat) : Bool :=
  (t.regex.findAll row.toArray).any (·.covers k)

theorem unmatchedInLine_eq (number : Nat) (row : List Char) :
    t.unmatchedInLine number row =
      ((List.range' 0 row.length).filter fun k ↦ !t.matched row k).filterMap
        (report? number row) := by
  have hplaces := flatMap_places_gaps (ascends_findAll t.regex row.toArray)
  rw [Nat.sub_zero, List.size_toArray] at hplaces
  unfold matched
  rw [← hplaces, List.filterMap_flatMap]
  rfl

variable {t}

theorem mem_unmatchedInLine_iff : e ∈ t.unmatchedInLine number row ↔
    ∃ k, row[k]? = some e.char ∧ isBlank e.char = false ∧ t.matched row k = false ∧
      e.line = number ∧ e.column = k + 1 := by
  rw [unmatchedInLine_eq, List.mem_filterMap]
  simp only [List.mem_filter, List.mem_range'_1, report?_eq_some_iff, Bool.not_eq_true']
  constructor
  · rintro ⟨k, ⟨-, hm⟩, hc, hb, hl, hcol⟩
    exact ⟨k, hc, hb, hm, hl, hcol⟩
  · rintro ⟨k, hc, hb, hm, hl, hcol⟩
    obtain ⟨hk, -⟩ := List.getElem?_eq_some_iff.mp hc
    exact ⟨k, ⟨by omega, hm⟩, hc, hb, hl, hcol⟩

theorem pairwise_unmatchedInLine (t : Tokenizer) (number : Nat) (row : List Char) :
    (t.unmatchedInLine number row).Pairwise (·.column < ·.column) := by
  rw [unmatchedInLine_eq, List.pairwise_filterMap]
  refine ((List.pairwise_lt_range' 1).filter _).imp ?_
  intro k k' hlt e he e' he'
  have := (report?_eq_some_iff.mp he).2.2.2
  have := (report?_eq_some_iff.mp he').2.2.2
  omega

end Tokenizer

def UnexpectedChar.Precedes (e e' : UnexpectedChar) : Prop :=
  e.line < e'.line ∨ e.line = e'.line ∧ e.column < e'.column

theorem UnexpectedChar.Precedes.ne {e e' : UnexpectedChar} (h : e.Precedes e') : e ≠ e' := by
  rintro rfl
  unfold Precedes at h
  omega

namespace Tokenizer

variable {t : Tokenizer} {source : String} {i k : Nat} {row : List Char} {c : Char}
  {e : UnexpectedChar}

theorem mem_unmatched_iff : e ∈ t.unmatched source ↔
    ∃ i row, (Text.splitLines source.toList)[i]? = some row ∧
      e ∈ t.unmatchedInLine (i + 1) row := by
  rw [unmatched, List.mem_flatten]
  simp only [List.mem_mapIdx, List.getElem?_eq_some_iff]
  constructor
  · rintro ⟨_, ⟨i, hi, rfl⟩, he⟩
    exact ⟨i, _, ⟨hi, rfl⟩, he⟩
  · rintro ⟨i, _, ⟨hi, rfl⟩, he⟩
    exact ⟨_, ⟨i, hi, rfl⟩, he⟩

theorem pairwise_unmatched (t : Tokenizer) (source : String) :
    (t.unmatched source).Pairwise UnexpectedChar.Precedes := by
  rw [unmatched, List.pairwise_flatten]
  constructor
  · intro reports hr
    obtain ⟨i, hi, rfl⟩ := List.mem_mapIdx.mp hr
    refine (pairwise_unmatchedInLine t (i + 1) _).imp_of_mem ?_
    intro e e' he he' hlt
    obtain ⟨_, -, -, -, hl, -⟩ := mem_unmatchedInLine_iff.mp he
    obtain ⟨_, -, -, -, hl', -⟩ := mem_unmatchedInLine_iff.mp he'
    exact .inr ⟨hl.trans hl'.symm, hlt⟩
  · rw [List.pairwise_iff_getElem]
    intro i j hi hj hlt e he e' he'
    rw [List.getElem_mapIdx] at he he'
    obtain ⟨_, -, -, -, hl, -⟩ := mem_unmatchedInLine_iff.mp he
    obtain ⟨_, -, -, -, hl', -⟩ := mem_unmatchedInLine_iff.mp he'
    exact .inl (by omega)

/-- A character that is not blank is reported once if no match covers it, and else not at all. -/
theorem count_unmatched (hl : (Text.splitLines source.toList)[i]? = some row)
    (hc : row[k]? = some c) (hb : isBlank c = false) :
    (t.unmatched source).count ⟨c, i + 1, k + 1⟩ = if t.matched row k then 0 else 1 := by
  have hmem : ⟨c, i + 1, k + 1⟩ ∈ t.unmatched source ↔ t.matched row k = false := by
    rw [mem_unmatched_iff]
    constructor
    · rintro ⟨j, row', hl', he⟩
      obtain ⟨k', -, -, hm, hj, hk⟩ := mem_unmatchedInLine_iff.mp he
      cases Nat.succ.inj hj
      cases Nat.succ.inj hk
      cases hl.symm.trans hl'
      exact hm
    · intro hm
      exact ⟨i, row, hl, mem_unmatchedInLine_iff.mpr ⟨k, hc, hb, hm, rfl, rfl⟩⟩
  cases hm : t.matched row k with
  | true =>
    refine List.count_eq_zero_of_not_mem fun he ↦ ?_
    exact Bool.false_ne_true ((hmem.mp he).symm.trans hm)
  | false =>
    exact List.count_eq_one_of_mem
      ((pairwise_unmatched t source).imp UnexpectedChar.Precedes.ne) (hmem.mpr hm)

def tokenSpans (t : Tokenizer) (row : List Char) : List Span :=
  (t.regex.findAll row.toArray).filter fun span ↦
    (span.text row.toArray).toList.any (!isBlank ·)

theorem tokenizeLine_eq (t : Tokenizer) (row : List Char) :
    t.tokenizeLine row = (t.tokenSpans row).map (·.text row.toArray) := by
  unfold tokenizeLine tokenSpans
  rw [List.filter_map]
  rfl

theorem toList_text (span : Span) (row : List Char) :
    (span.text row.toArray).toList = (row.take span.stop).drop span.start := by
  unfold Span.text
  simp [List.extract_eq_take_drop, List.drop_take]

theorem any_text_iff {span : Span} :
    (span.text row.toArray).toList.any (!isBlank ·) = true ↔
      ∃ k c, span.covers k = true ∧ row[k]? = some c ∧ isBlank c = false := by
  simp only [toList_text, List.any_eq_true, List.mem_iff_getElem?, List.getElem?_drop,
    List.getElem?_take, Span.covers_iff, Bool.not_eq_true']
  constructor
  · rintro ⟨c, ⟨k, hk⟩, hb⟩
    split_ifs at hk with hlt
    exact ⟨span.start + k, c, ⟨Nat.le_add_right _ _, hlt⟩, hk, hb⟩
  · rintro ⟨k, c, ⟨hle, hlt⟩, hk, hb⟩
    refine ⟨c, ⟨k - span.start, ?_⟩, hb⟩
    rw [Nat.add_sub_cancel' hle, if_pos hlt, hk]

theorem countP_tokenSpans (hc : row[k]? = some c) (hb : isBlank c = false) :
    (t.tokenSpans row).countP (·.covers k) = if t.matched row k then 1 else 0 := by
  unfold tokenSpans matched
  rw [← (ascends_findAll t.regex row.toArray).countP_covers k, List.countP_filter]
  apply List.countP_congr
  intro span _
  rw [Bool.and_eq_true, any_text_iff]
  exact ⟨And.left, fun h ↦ ⟨h, k, c, h, hc, hb⟩⟩

end Tokenizer

/--
The tokens of a line are parts of it, one after the other, and none of them is blank. A character
that is not blank lies in one token or is reported once, with its line and column, and nothing else
is reported.
-/
theorem characters_kept_or_reported (t : Tokenizer) (source : String) :
    (t.tokenize source = (Text.splitLines source.toList).map fun row ↦
      (t.tokenSpans row).map (·.text row.toArray)) ∧
    t.tokenizeFlat source = (t.tokenize source).flatten ∧
    (∀ row ∈ Text.splitLines source.toList,
      (t.tokenSpans row).Pairwise (·.stop ≤ ·.start) ∧
      ∀ span ∈ t.tokenSpans row, span.start < span.stop ∧ span.stop ≤ row.length ∧
        ∃ k c, span.covers k = true ∧ row[k]? = some c ∧ isBlank c = false) ∧
    (t.unmatched source).Pairwise UnexpectedChar.Precedes ∧
    (∀ e ∈ t.unmatched source, ∃ i row k, (Text.splitLines source.toList)[i]? = some row ∧
      row[k]? = some e.char ∧ isBlank e.char = false ∧ e.line = i + 1 ∧ e.column = k + 1) ∧
    ∀ i row k c, (Text.splitLines source.toList)[i]? = some row → row[k]? = some c →
      isBlank c = false →
      (t.tokenSpans row).countP (·.covers k) + (t.unmatched source).count ⟨c, i + 1, k + 1⟩ =
        1 := by
  refine ⟨?_, rfl, fun row _ ↦ ⟨?_, fun span hspan ↦ ?_⟩, t.pairwise_unmatched source,
    fun e he ↦ ?_, fun i row k c hl hc hb ↦ ?_⟩
  · exact List.map_congr_left fun row _ ↦ t.tokenizeLine_eq row
  · exact (ascends_findAll t.regex row.toArray).pairwise.filter _
  · obtain ⟨hm, htext⟩ := List.mem_filter.mp hspan
    obtain ⟨k, c, hcovers, hc, hb⟩ := Tokenizer.any_text_iff.mp htext
    have hbounds := (ascends_findAll t.regex row.toArray).bounds hm
    have hk := Span.covers_iff.mp hcovers
    rw [List.size_toArray] at hbounds
    exact ⟨by omega, hbounds.2.2, k, c, hcovers, hc, hb⟩
  · obtain ⟨i, row, hl, hm⟩ := Tokenizer.mem_unmatched_iff.mp he
    obtain ⟨k, hc, hb, -, hnumber, hcolumn⟩ := Tokenizer.mem_unmatchedInLine_iff.mp hm
    exact ⟨i, row, k, hl, hc, hb, hnumber, hcolumn⟩
  · rw [Tokenizer.countP_tokenSpans hc hb, Tokenizer.count_unmatched hl hc hb]
    cases t.matched row k <;> rfl

def Tokenizer.accents : Tokenizer where
  patterns := ["b*", " é"]
  regex := .alt (.repetition (.set (.range 'b' 'b')) ⟨0, none, true⟩)
    (.seq (.set (.range ' ' ' ')) (.set (.range 'é' 'é')))

theorem characters_kept_or_reported_accents :
    Tokenizer.ofPatterns ["b*", " é"] = .ok .accents ∧
    (Text.splitLines "bb\r\n éb".toList)[1]? = some [' ', 'é', 'b'] ∧
    [' ', 'é', 'b'][1]? = some 'é' ∧ isBlank 'é' = false ∧
    (Tokenizer.accents.tokenSpans [' ', 'é', 'b']).countP (·.covers 1) +
      (Tokenizer.accents.unmatched "bb\r\n éb").count ⟨'é', 2, 2⟩ = 1 ∧
    Tokenizer.accents.unmatched "bb\r\n éb" = [⟨'é', 2, 2⟩] := by
  have hl : (Text.splitLines "bb\r\n éb".toList)[1]? = some [' ', 'é', 'b'] := by decide
  have hb : isBlank 'é' = false := by decide
  obtain ⟨-, -, -, -, -, h⟩ := characters_kept_or_reported .accents "bb\r\n éb"
  exact ⟨by cbv, hl, rfl, hb, h 1 _ 1 'é' hl rfl hb, by cbv⟩

end TopDown
