import Mathlib.Data.List.Basic
import TopDown.Proofs.MatchEnds
import TopDown.Regex.Search

namespace TopDown.Regex

variable {f f' : Nat → List Nat} {greedy : Bool} {size n i e : Nat}

structure SameSteps (size : Nat) (f f' : Nat → List Nat) : Prop where
  eq : ∀ i ≤ size, f i = f' i
  le : ∀ i ≤ size, ∀ e ∈ f' i, e ≤ size

theorem SameSteps.flatMap_eq (h : SameSteps size f f') {starts : List Nat}
    (hs : ∀ i ∈ starts, i ≤ size) : starts.flatMap f = starts.flatMap f' :=
  List.flatMap_congr fun i hi ↦ h.eq i (hs i hi)

theorem SameSteps.exactly_eq (h : SameSteps size f f') {starts : List Nat}
    (hs : ∀ i ∈ starts, i ≤ size) : exactly f n starts = exactly f' n starts := by
  induction n generalizing starts with
  | zero => rfl
  | succ n ih =>
    rw [exactly, exactly, h.flatMap_eq hs]
    refine ih fun e he ↦ ?_
    rw [List.mem_eraseDups, List.mem_flatMap] at he
    obtain ⟨i, hi, he⟩ := he
    exact h.le i (hs i hi) e he

theorem SameSteps.oneOrMore_eq (h : SameSteps size f f') {fuel fuel' : Nat} (hi : i ≤ size)
    (hfuel : size < i + fuel) (hfuel' : size < i + fuel') :
    oneOrMore f' greedy fuel i = oneOrMore f' greedy fuel' i := by
  induction fuel generalizing i fuel' with
  | zero => omega
  | succ fuel ih =>
    obtain ⟨fuel', rfl⟩ : ∃ n, fuel' = n + 1 := Nat.exists_eq_add_one.mpr (by omega)
    rw [oneOrMore, oneOrMore]
    refine congrArg List.eraseDups (List.flatMap_congr fun e he ↦ ?_)
    split
    · have hrest : size < e + fuel := by omega
      have hrest' : size < e + fuel' := by omega
      rw [ih (h.le i hi e he) hrest hrest']
    · rfl

namespace EndTable

@[simp] theorem size_ofFn (f : Nat → List Nat) : (ofFn size f).size = size + 1 := by
  simp [ofFn]

theorem ends_ofFn (hi : i ≤ size) : (ofFn size f).ends i = f i := by
  have hlt : i < size + 1 := Nat.lt_succ_of_le hi
  simp [ends, ofFn, hlt, Thunk.get]

theorem atMost_eq (h : SameSteps size f f') (hi : i ≤ size) :
    (atMost size f greedy n).ends i = Regex.atMost f' greedy n i := by
  induction n generalizing i with
  | zero => rw [atMost, ends_ofFn hi, Regex.atMost]
  | succ n ih =>
    rw [atMost, ends_ofFn hi, Regex.atMost, h.eq i hi]
    rw [List.flatMap_congr fun e he ↦ ih (h.le i hi e he)]

theorem getElem?_oneOrMoreAux (h : SameSteps size f f') (hn : n ≤ size + 1) {k : Nat}
    (hk : k < n) : (oneOrMoreAux size f greedy n)[k]?.map Thunk.get =
      some (Regex.oneOrMore f' greedy (n - k) (size + 1 - n + k)) := by
  -- The list holds the last `n` places, so that each round puts the one before them in front.
  induction n generalizing k with
  | zero => cases hk
  | succ n ih =>
    have hplace : size + 1 - (n + 1) = size - n := Nat.add_sub_add_right size 1 n
    have hle : size - n ≤ size := Nat.sub_le size n
    cases k with
    | zero =>
      rw [oneOrMoreAux, hplace, List.getElem?_cons_zero, Option.map_some, Nat.sub_zero,
        Nat.add_zero (size - n), Regex.oneOrMore, ← h.eq _ hle]
      refine congrArg (some ∘ List.eraseDups) (List.flatMap_congr fun e he ↦ ?_)
      have hsize : e ≤ size := h.le _ hle e (h.eq _ hle ▸ he)
      by_cases hlt : size - n < e
      · have hrest : size < e + (n - (e - (size - n) - 1)) := by omega
        have hat : size + 1 - n + (e - (size - n) - 1) = e := by omega
        rw [if_pos hlt, if_pos hlt, ih (by omega) (by omega), Option.getD_some, hat,
          h.oneOrMore_eq hsize hrest (show size < e + n by omega)]
      · rw [if_neg hlt, if_neg hlt]
    | succ k =>
      rw [oneOrMoreAux, List.getElem?_cons_succ, ih (by omega) (by omega)]
      rw [Nat.add_sub_add_right, hplace, show size + 1 - n + k = size - n + (k + 1) by omega]

theorem oneOrMore_eq (h : SameSteps size f f') (hi : i ≤ size) :
    (oneOrMore size f greedy).ends i = Regex.oneOrMore f' greedy (size + 1 - i) i := by
  rw [ends, oneOrMore, List.getElem?_toArray,
    getElem?_oneOrMoreAux h (Nat.le_refl _) (Nat.lt_succ_of_le hi), Nat.sub_self, Nat.zero_add]
  rfl

end EndTable

variable {s : Text} {r : Regex}

theorem size_table (s : Text) (r : Regex) : (table s r).size = s.size + 1 := by
  match r with
  | .empty | .set _ | .look _ _ | .seq _ _ | .alt _ _ | .repetition _ ⟨_, some _, _⟩
  | .repetition _ ⟨0, none, _⟩ | .repetition _ ⟨_ + 1, none, _⟩ => exact EndTable.size_ofFn _

theorem ends_table (hi : i ≤ s.size) : (table s r).ends i = ends s r i := by
  induction r generalizing i with
  | empty | set cs | look l word => exact EndTable.ends_ofFn hi
  | seq a b iha ihb =>
    rw [table, EndTable.ends_ofFn hi, ends, iha hi]
    exact congrArg List.eraseDups
      (List.flatMap_congr fun e he ↦ ihb (le_size_of_mem_ends hi he))
  | alt a b iha ihb => rw [table, EndTable.ends_ofFn hi, ends, iha hi, ihb hi]
  | repetition a rounds ih =>
    have hsteps : SameSteps s.size (table s a).ends (ends s a) :=
      ⟨fun _ ↦ ih, fun _ hi _ ↦ le_size_of_mem_ends hi⟩
    have hexactly (n : Nat) : exactly (table s a).ends n [i] = exactly (ends s a) n [i] :=
      hsteps.exactly_eq fun j hj ↦ List.mem_singleton.mp hj ▸ hi
    obtain ⟨min, max | max, greedy⟩ := rounds
    · cases min with
      | zero => rw [table, EndTable.ends_ofFn hi, ends, EndTable.oneOrMore_eq hsteps hi]
      | succ min =>
        rw [table, EndTable.ends_ofFn hi, ends, hexactly]
        exact congrArg List.eraseDups (List.flatMap_congr fun e he ↦
          EndTable.oneOrMore_eq hsteps (le_of_mem_exactly hsteps.le hi he))
    · rw [table, EndTable.ends_ofFn hi, ends, hexactly]
      exact congrArg List.eraseDups (List.flatMap_congr fun e he ↦
        EndTable.atMost_eq hsteps (le_of_mem_exactly hsteps.le hi he))

namespace EndTable

variable {t : EndTable} {start : Nat} {span : Span}

/-- The span begins at a place of the text and stops at the preferred end. -/
def IsFirst (t : EndTable) (span : Span) : Prop :=
  span.start < t.size ∧ (t.ends span.start).head? = some span.stop

theorem isFirst_of_find? (h : t.find? start = some span) : start ≤ span.start ∧ t.IsFirst span := by
  obtain ⟨i, hi, h⟩ := List.exists_of_findSome?_eq_some h
  obtain ⟨e, he, rfl⟩ := Option.map_eq_some_iff.mp h
  rw [List.mem_range'_1] at hi
  exact ⟨hi.1, by dsimp only; omega, he⟩

theorem isFirst_of_findNext? (h : t.findNext? start = some span) : t.IsFirst span := by
  unfold findNext? at h
  split at h
  · next found hfound =>
    split at h
    · exact (isFirst_of_find? h).2
    · cases h
      exact (isFirst_of_find? hfound).2
  · cases h

theorem isFirst_of_mem_findAfter (h : span ∈ t.findAfter start) : t.IsFirst span := by
  fun_induction findAfter t start with
  | case1 start found hfound hgo ih =>
    obtain rfl | h := List.mem_cons.mp h
    · exact isFirst_of_findNext? hfound
    · exact ih h
  | case2 start found hfound hgo =>
    rw [List.mem_singleton.mp h]
    exact isFirst_of_findNext? hfound
  | case3 => cases h

theorem isFirst_of_mem_findAll (h : span ∈ t.findAll) : t.IsFirst span := by
  unfold findAll at h
  split at h
  · next found hfound =>
    obtain rfl | h := List.mem_cons.mp h
    · exact (isFirst_of_find? hfound).2
    · exact isFirst_of_mem_findAfter h
  · cases h

theorem find?_of_isFirst (h : t.IsFirst span) : t.find? span.start = some span := by
  obtain ⟨n, hn⟩ := Nat.exists_eq_add_one.mpr (Nat.sub_pos_of_lt h.1)
  rw [find?, hn, List.range'_succ, List.findSome?_cons, h.2]
  rfl

theorem findAfter_of_isFirst (h : t.IsFirst span) (hlt : span.start < span.stop)
    (hstop : span.stop < t.size) : t.findAfter span.start = span :: t.findAfter span.stop := by
  have hnext : t.findNext? span.start = some span := by
    rw [findNext?, find?_of_isFirst h]
    exact if_neg (Nat.ne_of_gt hlt)
  rw [findAfter]
  simp only [hnext]
  rw [if_pos ⟨hlt, hstop⟩]

theorem findAfter_of_find?_eq_none (h : t.find? start = none) : t.findAfter start = [] := by
  rw [findAfter]
  simp only [findNext?, h]

theorem findAll_eq_findAfter
    (h : ∀ span, t.IsFirst span → span.start < span.stop ∧ span.stop < t.size) :
    t.findAll = t.findAfter 0 := by
  cases hfound : t.find? 0 with
  | none => rw [findAll, hfound, findAfter_of_find?_eq_none hfound]
  | some span =>
    obtain ⟨hlt, hstop⟩ := h span (isFirst_of_find? hfound).2
    have hpos : 0 < span.stop := Nat.zero_lt_of_lt hlt
    have hnext : t.findNext? 0 = some span := by
      rw [findNext?, hfound]
      exact if_neg (Nat.ne_of_gt hpos)
    rw [findAll, hfound, findAfter]
    simp only [hnext]
    rw [if_pos ⟨hpos, hstop⟩]

end EndTable

variable {span : Span}

theorem isFirst_table : (table s r).IsFirst span ↔
    span.start ≤ s.size ∧ (ends s r span.start).head? = some span.stop := by
  rw [EndTable.IsFirst, size_table, Nat.lt_succ_iff]
  exact and_congr_right fun hle ↦ by rw [ends_table hle]

theorem lt_of_isFirst_table (hr : r.consumes = true) (h : (table s r).IsFirst span) :
    span.start < span.stop ∧ span.stop < (table s r).size := by
  rw [isFirst_table] at h
  have hm : span.stop ∈ ends s r span.start := List.mem_of_head? h.2
  rw [size_table]
  exact ⟨lt_of_mem_ends hr hm, Nat.lt_succ_of_le (le_size_of_mem_ends h.1 hm)⟩

theorem findAfter_table_cons (hr : r.consumes = true) (hi : i ≤ s.size)
    (h : (ends s r i).head? = some e) :
    (table s r).findAfter i = ⟨i, e⟩ :: (table s r).findAfter e := by
  have hfirst : (table s r).IsFirst ⟨i, e⟩ := isFirst_table.mpr ⟨hi, h⟩
  obtain ⟨hlt, hstop⟩ := lt_of_isFirst_table hr hfirst
  exact EndTable.findAfter_of_isFirst hfirst hlt hstop

theorem findAfter_table_size (hr : r.consumes = true) : (table s r).findAfter s.size = [] := by
  refine EndTable.findAfter_of_find?_eq_none ?_
  cases h : (table s r).find? s.size with
  | none => rfl
  | some span =>
    obtain ⟨hle, hfirst⟩ := EndTable.isFirst_of_find? h
    obtain ⟨hlt, hstop⟩ := lt_of_isFirst_table hr hfirst
    rw [size_table] at hstop
    omega

theorem findAll_eq_findAfter (hr : r.consumes = true) (s : Text) :
    r.findAll s = (table s r).findAfter 0 :=
  EndTable.findAll_eq_findAfter fun _ ↦ lt_of_isFirst_table hr

end TopDown.Regex
