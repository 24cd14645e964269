import TopDown.Proofs.PatternAlternation
import TopDown.Proofs.TokenCoverage

namespace TopDown

open Unicode (isBlank)

namespace Regex

variable {s : Text} {r : Regex} {rs : List Regex} {start i n : Nat} {last : Option Nat}
  {span span' : Span} {spans spans' : List Span}

namespace EndTable

variable {t : EndTable}

theorem find?_of_size_le (h : t.size ≤ start) : t.find? start = none := by
  rw [find?, Nat.sub_eq_zero_of_le h]
  rfl

theorem find?_of_lt (h : start < t.size) :
    t.find? start = ((t.ends start).head?.map fun e ↦ ⟨start, e⟩).or (t.find? (start + 1)) := by
  have hn : t.size - start = t.size - (start + 1) + 1 := by omega
  rw [find?, hn, List.range'_succ, List.findSome?_cons, find?]
  cases (t.ends start).head? <;> rfl

theorem find?_eq_none_iff : t.find? start = none ↔
    ∀ i, start ≤ i → i < t.size → t.ends i = [] := by
  unfold find?
  rw [List.findSome?_eq_none_iff]
  simp only [List.mem_range'_1, Option.map_eq_none_iff, List.head?_eq_none_iff]
  constructor
  · intro h i hle hlt
    exact h i ⟨hle, by omega⟩
  · intro h i hi
    exact h i hi.1 (by omega)

theorem find?_eq_some_iff : t.find? start = some span ↔
    start ≤ span.start ∧ t.IsFirst span ∧ ∀ i, start ≤ i → i < span.start → t.ends i = [] := by
  induction hn : t.size - start generalizing start with
  | zero =>
    rw [find?_of_size_le (by omega)]
    constructor
    · exact nofun
    · intro ⟨hle, hfirst, _⟩
      have := hfirst.1
      omega
  | succ n ih =>
    rw [find?_of_lt (by omega)]
    cases hhead : (t.ends start).head? with
    | some e =>
      constructor
      · intro h
        cases h
        exact ⟨Nat.le_refl _, ⟨by dsimp only; omega, hhead⟩,
          fun i hle hlt ↦ absurd hlt (Nat.not_lt.mpr hle)⟩
      · intro ⟨hle, hfirst, hleast⟩
        -- Nothing begins before the span, but something begins at the start.
        have heq : span.start = start := by
          by_contra hne
          rw [hleast start (Nat.le_refl _) (by omega)] at hhead
          cases hhead
        obtain ⟨first, stop⟩ := span
        cases heq
        cases hhead.symm.trans hfirst.2
        rfl
    | none =>
      rw [Option.map_none, Option.none_or, ih (by omega)]
      have hempty := List.head?_eq_none_iff.mp hhead
      constructor
      · intro ⟨hle, hfirst, hleast⟩
        refine ⟨by omega, hfirst, fun i hi hlt ↦ ?_⟩
        obtain rfl | hi := Nat.eq_or_lt_of_le hi
        · exact hempty
        · exact hleast i hi hlt
      · intro ⟨hle, hfirst, hleast⟩
        refine ⟨Nat.lt_of_le_of_ne hle fun heq ↦ ?_, hfirst, fun i hi hlt ↦ hleast i (by omega) hlt⟩
        have := hfirst.2
        rw [← heq, hhead] at this
        cases this

end EndTable

/--
The span begins at the first place from `start` on where some of the expressions match, and it ends
where the first one of those prefers to end.
-/
structure IsLeftmost (rs : List Regex) (s : Text) (start : Nat) (span : Span) : Prop where
  le : start ≤ span.start
  le_size : span.start ≤ s.size
  first : ∃ before r after, rs = before ++ r :: after ∧
    (ends s r span.start).head? = some span.stop ∧ ∀ q ∈ before, ends s q span.start = []
  least : ∀ i, start ≤ i → i < span.start → ∀ q ∈ rs, ends s q i = []

theorem head?_eraseDups (xs : List Nat) : xs.eraseDups.head? = xs.head? := by
  cases xs with
  | nil => rfl
  | cons x xs => rw [List.eraseDups_cons, List.head?_cons, List.head?_cons]

theorem head?_ends_alternatives (s : Text) (r : Regex) (rs : List Regex) (i : Nat) :
    (ends s (alternatives r rs) i).head? = (r :: rs).findSome? fun r ↦ (ends s r i).head? := by
  induction rs generalizing r with
  | nil =>
    rw [alternatives, List.findSome?_cons]
    cases (ends s r i).head? <;> rfl
  | cons next others ih =>
    rw [alternatives, ends, head?_eraseDups, List.head?_append, ih]
    cases hr : (ends s r i).head? with
    | none => simp [List.findSome?_cons, hr]
    | some e => simp [List.findSome?_cons, hr]

theorem ends_alternatives_eq_nil_iff : ends s (alternatives r rs) i = [] ↔
    ∀ q ∈ r :: rs, ends s q i = [] := by
  rw [← List.head?_eq_none_iff, head?_ends_alternatives, List.findSome?_eq_none_iff]
  simp only [List.head?_eq_none_iff]

theorem find?_alternatives_eq_some_iff :
    (table s (alternatives r rs)).find? start = some span ↔ IsLeftmost (r :: rs) s start span := by
  rw [EndTable.find?_eq_some_iff, isFirst_table, head?_ends_alternatives,
    List.findSome?_eq_some_iff]
  simp only [List.head?_eq_none_iff]
  constructor
  · intro ⟨hle, ⟨hsize, hfirst⟩, hleast⟩
    refine ⟨hle, hsize, hfirst, fun i hi hlt ↦ ?_⟩
    rw [← ends_alternatives_eq_nil_iff, ← ends_table (by omega)]
    exact hleast i hi hlt
  · intro h
    refine ⟨h.le, ⟨h.le_size, h.first⟩, fun i hi hlt ↦ ?_⟩
    have := h.le_size
    rw [ends_table (by omega), ends_alternatives_eq_nil_iff]
    exact h.least i hi hlt

theorem find?_alternatives_eq_none_iff :
    (table s (alternatives r rs)).find? start = none ↔
      ∀ i, start ≤ i → i ≤ s.size → ∀ q ∈ r :: rs, ends s q i = [] := by
  rw [EndTable.find?_eq_none_iff, size_table]
  refine forall_congr' fun i ↦ forall_congr' fun _ ↦ ?_
  rw [Nat.lt_succ_iff]
  refine forall_congr' fun hle ↦ ?_
  rw [ends_table hle, ends_alternatives_eq_nil_iff]

/--
The matches of a search that stands at `i`, where `last` is the end of the match before. The search
goes on from the end of each match, and passes over an empty match at the end of the last one.
-/
inductive Scans (rs : List Regex) (s : Text) : Option Nat → Nat → List Span → Prop
  | done {last : Option Nat} {i : Nat}
      (h : ∀ j, i ≤ j → j ≤ s.size → ∀ q ∈ rs, ends s q j = []) : Scans rs s last i []
  | found {last : Option Nat} {i : Nat} {span : Span} {spans : List Span}
      (h : IsLeftmost rs s i span) (hnew : ¬ (span.isEmpty = true ∧ last = some span.stop))
      (rest : Scans rs s (some span.stop) span.stop spans) : Scans rs s last i (span :: spans)
  | passed {last : Option Nat} {i : Nat} {span : Span} {spans : List Span}
      (h : IsLeftmost rs s i span) (hold : span.isEmpty = true ∧ last = some span.stop)
      (rest : Scans rs s last (i + 1) spans) : Scans rs s last i spans

theorem IsLeftmost.unique (h : IsLeftmost (r :: rs) s i span)
    (h' : IsLeftmost (r :: rs) s i span') : span = span' :=
  Option.some.inj ((find?_alternatives_eq_some_iff.mpr h).symm.trans
    (find?_alternatives_eq_some_iff.mpr h'))

theorem IsLeftmost.not_done (h : IsLeftmost rs s i span)
    (hd : ∀ j, i ≤ j → j ≤ s.size → ∀ q ∈ rs, ends s q j = []) : False := by
  obtain ⟨before, r, after, rfl, hr, -⟩ := h.first
  rw [hd span.start h.le h.le_size r (by simp)] at hr
  cases hr

theorem Scans.unique (h : Scans (r :: rs) s last i spans) (h' : Scans (r :: rs) s last i spans') :
    spans = spans' := by
  induction h generalizing spans' with
  | done hd =>
    cases h' with
    | done => rfl
    | found h => exact (h.not_done hd).elim
    | passed h => exact (h.not_done hd).elim
  | found h hnew _ ih =>
    cases h' with
    | done hd => exact (h.not_done hd).elim
    | found h' _ rest =>
      cases h.unique h'
      rw [ih rest]
    | passed h' hold =>
      cases h.unique h'
      exact absurd hold hnew
  | passed h hold _ ih =>
    cases h' with
    | done hd => exact (h.not_done hd).elim
    | found h' hnew =>
      cases h.unique h'
      exact absurd hold hnew
    | passed _ _ rest => exact ih rest

theorem isEmpty_iff : span.isEmpty = true ↔ span.start = span.stop := by
  simp [Span.isEmpty]

theorem IsLeftmost.bounds (h : IsLeftmost (r :: rs) s i span) :
    i ≤ span.start ∧ span.start ≤ span.stop ∧ span.stop ≤ s.size := by
  have hfirst := (EndTable.isFirst_of_find? (find?_alternatives_eq_some_iff.mpr h)).2
  exact ⟨h.le, bounds_of_isFirst hfirst⟩

theorem lt_of_findNext? (h : (table s r).findNext? i = some span) :
    i < span.stop ∧ span.stop < (table s r).size := by
  rw [size_table]
  unfold EndTable.findNext? at h
  split at h
  · next found hfound =>
    split_ifs at h with hstop
    · obtain ⟨hle, hfirst⟩ := EndTable.isFirst_of_find? h
      have hb := bounds_of_isFirst hfirst
      omega
    · cases h
      obtain ⟨hle, hfirst⟩ := EndTable.isFirst_of_find? hfound
      have hb := bounds_of_isFirst hfirst
      omega
  · cases h

/-- The search after a match takes the next one, but for an empty one that is passed over. -/
theorem scans_findAfter (i : Nat) :
    Scans (r :: rs) s (some i) i ((table s (alternatives r rs)).findAfter i) := by
  fun_induction EndTable.findAfter (table s (alternatives r rs)) i with
  | case1 i span hnext hgo ih =>
    unfold EndTable.findNext? at hnext
    split at hnext
    · next found hfound =>
      have hleft := find?_alternatives_eq_some_iff.mp hfound
      split_ifs at hnext with hstop
      · have hb := hleft.bounds
        -- An empty match where the last one ended, so the search is made again one place on.
        refine .passed hleft ⟨isEmpty_iff.mpr (by omega), congrArg some hstop.symm⟩ ?_
        refine .found (find?_alternatives_eq_some_iff.mp hnext) (fun hold ↦ ?_) ih
        have := Option.some.inj hold.2
        omega
      · cases hnext
        exact .found hleft (fun hold ↦ hstop (Option.some.inj hold.2).symm) ih
    · cases hnext
  | case2 i span hnext hstuck => exact absurd (lt_of_findNext? hnext) hstuck
  | case3 i hnext =>
    unfold EndTable.findNext? at hnext
    split at hnext
    · next found hfound =>
      have hleft := find?_alternatives_eq_some_iff.mp hfound
      split_ifs at hnext with hstop
      have hb := hleft.bounds
      exact .passed hleft ⟨isEmpty_iff.mpr (by omega), congrArg some hstop.symm⟩
        (.done (find?_alternatives_eq_none_iff.mp hnext))
    · next hnone => exact .done (find?_alternatives_eq_none_iff.mp hnone)

theorem scans_findAll (r : Regex) (rs : List Regex) (s : Text) :
    Scans (r :: rs) s none 0 ((alternatives r rs).findAll s) := by
  unfold findAll EndTable.findAll
  split
  · next span hfound =>
    exact .found (find?_alternatives_eq_some_iff.mp hfound)
      (fun hold ↦ Option.some_ne_none _ hold.2.symm) (scans_findAfter span.stop)
  · next hnone => exact .done (find?_alternatives_eq_none_iff.mp hnone)

end Regex

open TopDown.Regex

theorem Span.any_text_eq (span : Span) (line : List Char) :
    (span.text line.toArray).toList.any (!isBlank ·) =
      (!span.isEmpty && !(span.text line.toArray).toList.all isBlank) := by
  cases he : span.isEmpty with
  | false => simp [List.not_all_eq_any_not]
  | true =>
    have htext : (span.text line.toArray).toList = [] := by
      rw [Tokenizer.toList_text, isEmpty_iff.mp he]
      simp
    rw [htext]
    rfl

/--
A tokenizer without patterns that skip blanks finds what a search finds that tries the patterns by
themselves in their order. Its tokens are those of these spans that neither are empty nor blank.
-/
theorem patterns_tried_in_order {patterns : List String} {t : Tokenizer}
    (ht : Tokenizer.ofPatterns patterns = .ok t) (hx : ∀ p ∈ patterns, ¬ IgnoresBlanks p) :
    ∃ rs, List.Forall₂ (fun p r ↦ parse p = .ok r) patterns rs ∧ ∀ line : List Char,
      (∀ spans, t.regex.findAll line.toArray = spans ↔ Scans rs line.toArray none 0 spans) ∧
      ∀ spans, Scans rs line.toArray none 0 spans → t.tokenizeLine line =
        (spans.filter fun span ↦ !span.isEmpty &&
          !(span.text line.toArray).toList.all isBlank).map (·.text line.toArray) := by
  obtain ⟨r, rs, hrs, hregex⟩ := Tokenizer.exists_alternatives_of_ofPatterns ht hx
  refine ⟨r :: rs, hrs, fun line ↦ ?_⟩
  have hscans : Scans (r :: rs) line.toArray none 0 (t.regex.findAll line.toArray) :=
    hregex ▸ scans_findAll r rs line.toArray
  refine ⟨fun spans ↦ ⟨fun h ↦ h ▸ hscans, hscans.unique⟩, fun spans hspans ↦ ?_⟩
  rw [Tokenizer.tokenizeLine_eq, Tokenizer.tokenSpans, hscans.unique hspans]
  simp only [Span.any_text_eq]

def Tokenizer.letters : Tokenizer where
  patterns := ["(?U)c+", "a|ab", "b*?"]
  regex := .alt (.repetition (.set (.range 'c' 'c')) ⟨1, none, false⟩)
    (.alt (.alt (.set (.range 'a' 'a')) (.seq (.set (.range 'a' 'a')) (.set (.range 'b' 'b'))))
      (.repetition (.set (.range 'b' 'b')) ⟨0, none, false⟩))

theorem patterns_tried_in_order_letters :
    Tokenizer.ofPatterns ["(?U)c+", "a|ab", "b*?"] = .ok .letters ∧
    (∀ p ∈ ["(?U)c+", "a|ab", "b*?"], ¬ IgnoresBlanks p) ∧
    ∃ rs, List.Forall₂ (fun p r ↦ parse p = .ok r) ["(?U)c+", "a|ab", "b*?"] rs ∧
      Scans rs #['b', 'c', 'a', 'b'] none 0 [⟨0, 0⟩, ⟨1, 2⟩, ⟨2, 3⟩, ⟨4, 4⟩] ∧
      Tokenizer.letters.tokenizeLine ['b', 'c', 'a', 'b'] = ["c", "a"] := by
  have ht : Tokenizer.ofPatterns ["(?U)c+", "a|ab", "b*?"] = .ok .letters := by cbv
  have hx : ∀ p ∈ ["(?U)c+", "a|ab", "b*?"], ¬ IgnoresBlanks p := by
    have hflag : ¬ IgnoresBlanks "(?U)c+" := by
      unfold IgnoresBlanks
      cbv
      exact Bool.false_ne_true
    have hbranches : ¬ IgnoresBlanks "a|ab" := by
      unfold IgnoresBlanks
      cbv
      exact Bool.false_ne_true
    have hlazy : ¬ IgnoresBlanks "b*?" := by
      unfold IgnoresBlanks
      cbv
      exact Bool.false_ne_true
    simp [hflag, hbranches, hlazy]
  obtain ⟨rs, hrs, h⟩ := patterns_tried_in_order ht hx
  obtain ⟨hscans, htokens⟩ := h ['b', 'c', 'a', 'b']
  have hspans := (hscans [⟨0, 0⟩, ⟨1, 2⟩, ⟨2, 3⟩, ⟨4, 4⟩]).mp (by cbv)
  exact ⟨ht, hx, rs, hrs, hspans, (htokens _ hspans).trans (by cbv)⟩

end TopDown
