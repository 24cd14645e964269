import TopDown.Proofs.MatchTable

namespace TopDown.Regex

def Iterates (R : Nat → Nat → Prop) : Nat → Nat → Nat → Prop
  | 0, i, e => i = e
  | n + 1, i, e => ∃ j, R i j ∧ Iterates R n j e

/-- A maximum below the minimum has no effect. -/
def Rounds.Allows (rounds : Rounds) (n : Nat) : Prop :=
  rounds.min ≤ n ∧ (n = rounds.min ∨ ∀ max ∈ rounds.max, n ≤ max)

def Matches (s : Text) : Regex → Nat → Nat → Prop
  | .empty, i, e => i = e
  | .set cs, i, e => s[i]?.any cs.contains = true ∧ i + 1 = e
  | .look l word, i, e => l.holds word s i = true ∧ i = e
  | .seq a b, i, e => ∃ j, Matches s a i j ∧ Matches s b j e
  | .alt a b, i, e => Matches s a i e ∨ Matches s b i e
  | .repetition a rounds, i, e => ∃ n, rounds.Allows n ∧ Iterates (Matches s a) n i e

def MatchesWhole (r : Regex) (s : Text) : Prop :=
  r.Matches s 0 s.size

variable {R : Nat → Nat → Prop} {f : Nat → List Nat} {greedy : Bool} {size m n i e : Nat}

theorem iterates_add : Iterates R (m + n) i e ↔ ∃ j, Iterates R m i j ∧ Iterates R n j e := by
  induction m generalizing i with
  | zero => simp [Iterates]
  | succ m ih =>
    rw [Nat.succ_add]
    simp only [Iterates, ih]
    constructor
    · rintro ⟨j, hj, k, hk, he⟩
      exact ⟨k, ⟨j, hj, hk⟩, he⟩
    · rintro ⟨k, ⟨j, hj, hk⟩, he⟩
      exact ⟨j, hj, k, hk, he⟩

theorem iterates_one : Iterates R 1 i e ↔ R i e := by
  simp [Iterates]

theorem Iterates.preserves {P : Nat → Prop} (hP : ∀ i j, R i j → P i → P j)
    (h : Iterates R n i e) (hi : P i) : P e := by
  induction n generalizing i with
  | zero => exact h ▸ hi
  | succ n ih =>
    obtain ⟨j, hj, h⟩ := h
    exact ih h (hP i j hj hi)

/-- On the places of a text of this size, `f` lists where `R` leads, which is never backwards. -/
structure Lists (size : Nat) (f : Nat → List Nat) (R : Nat → Nat → Prop) : Prop where
  mem_iff : ∀ i ≤ size, ∀ e, e ∈ f i ↔ R i e
  le : ∀ i e, R i e → i ≤ e
  le_size : ∀ i ≤ size, ∀ e, R i e → e ≤ size

namespace Lists

theorem iterates_le_size (h : Lists size f R) (hi : i ≤ size) (hr : Iterates R n i e) :
    e ≤ size :=
  hr.preserves (P := (· ≤ size)) (fun i j hj hi ↦ h.le_size i hi j hj) hi

theorem mem_exactly_iff (h : Lists size f R) {starts : List Nat} (hs : ∀ i ∈ starts, i ≤ size) :
    e ∈ exactly f n starts ↔ ∃ i ∈ starts, Iterates R n i e := by
  induction n generalizing starts with
  | zero => simp [exactly, Iterates]
  | succ n ih =>
    have hmem (j : Nat) : j ∈ (starts.flatMap f).eraseDups ↔ ∃ i ∈ starts, R i j := by
      rw [List.mem_eraseDups, List.mem_flatMap]
      exact exists_congr fun i ↦ and_congr_right fun hi ↦ h.mem_iff i (hs i hi) j
    have hnext : ∀ j ∈ (starts.flatMap f).eraseDups, j ≤ size := by
      intro j hj
      obtain ⟨i, hi, hij⟩ := (hmem j).mp hj
      exact h.le_size i (hs i hi) j hij
    rw [exactly, ih hnext]
    simp only [hmem, Iterates]
    constructor
    · rintro ⟨j, ⟨i, hi, hij⟩, he⟩
      exact ⟨i, hi, j, hij, he⟩
    · rintro ⟨i, hi, j, hij, he⟩
      exact ⟨j, ⟨i, hi, hij⟩, he⟩

theorem mem_atMost_iff (h : Lists size f R) (hi : i ≤ size) :
    e ∈ atMost f greedy n i ↔ ∃ k ≤ n, Iterates R k i e := by
  induction n generalizing i with
  | zero => simp [atMost, Iterates, eq_comm]
  | succ n ih =>
    rw [atMost, List.mem_eraseDups, mem_prefer, List.mem_flatMap, List.mem_singleton]
    constructor
    · rintro (⟨j, hj, he⟩ | rfl)
      · have hr := (h.mem_iff i hi j).mp hj
        obtain ⟨k, hk, he⟩ := (ih (h.le_size i hi j hr)).mp he
        exact ⟨k + 1, Nat.succ_le_succ hk, j, hr, he⟩
      · exact ⟨0, Nat.zero_le _, rfl⟩
    · rintro ⟨k, hk, he⟩
      cases k with
      | zero => exact .inr he.symm
      | succ k =>
        obtain ⟨j, hr, he⟩ := he
        exact .inl ⟨j, (h.mem_iff i hi j).mpr hr,
          (ih (h.le_size i hi j hr)).mpr ⟨k, Nat.le_of_succ_le_succ hk, he⟩⟩

/-- Rounds without progress can be left out, unless there is only one round. -/
theorem mem_oneOrMore_iff (h : Lists size f R) {fuel : Nat} (hi : i ≤ size)
    (hfuel : size < i + fuel) :
    e ∈ oneOrMore f greedy fuel i ↔ ∃ n, Iterates R (n + 1) i e := by
  constructor
  · intro he
    induction fuel generalizing i with
    | zero => cases he
    | succ fuel ih =>
      rw [oneOrMore, List.mem_eraseDups, List.mem_flatMap] at he
      obtain ⟨j, hj, he⟩ := he
      have hr := (h.mem_iff i hi j).mp hj
      rw [mem_prefer, List.mem_singleton] at he
      obtain he | rfl := he
      · split at he
        · obtain ⟨n, hn⟩ := ih (h.le_size i hi j hr) (by omega) he
          exact ⟨n + 1, j, hr, hn⟩
        · cases he
      · exact ⟨0, e, hr, rfl⟩
  · rintro ⟨n, hn⟩
    induction n generalizing i fuel with
    | zero =>
      obtain ⟨fuel, rfl⟩ : ∃ n, fuel = n + 1 := Nat.exists_eq_add_one.mpr (by omega)
      rw [oneOrMore, List.mem_eraseDups, List.mem_flatMap]
      refine ⟨e, (h.mem_iff i hi e).mpr (iterates_one.mp hn), ?_⟩
      exact mem_prefer.mpr (.inr (List.mem_singleton_self e))
    | succ n ih =>
      obtain ⟨j, hr, hn⟩ := hn
      obtain hlt | rfl := Nat.lt_or_eq_of_le (h.le i j hr)
      · obtain ⟨fuel, rfl⟩ : ∃ n, fuel = n + 1 := Nat.exists_eq_add_one.mpr (by omega)
        rw [oneOrMore, List.mem_eraseDups, List.mem_flatMap]
        refine ⟨j, (h.mem_iff i hi j).mpr hr, mem_prefer.mpr (.inl ?_)⟩
        rw [if_pos hlt]
        exact ih (h.le_size i hi j hr) (by omega) hn
      · exact ih hi hfuel hn

end Lists

variable {s : Text} {r a : Regex}

theorem mem_ends_repetition_iff (h : Lists s.size (ends s a) (Matches s a)) {rounds : Rounds}
    (hi : i ≤ s.size) :
    e ∈ ends s (.repetition a rounds) i ↔ Matches s (.repetition a rounds) i e := by
  have hexactly (n j : Nat) : j ∈ exactly (ends s a) n [i] ↔ Iterates (Matches s a) n i j := by
    rw [h.mem_exactly_iff fun j hj ↦ List.mem_singleton.mp hj ▸ hi]
    simp only [List.mem_singleton, exists_eq_left]
  have hnone (n : Nat) : ∀ max ∈ (none : Option Nat), n ≤ max := by simp
  have hmore (j : Nat) (hj : j ≤ s.size) : e ∈ oneOrMore (ends s a) rounds.greedy
      (s.size + 1 - j) j ↔ ∃ n, Iterates (Matches s a) (n + 1) j e :=
    h.mem_oneOrMore_iff hj (by omega)
  obtain ⟨min, max | max, greedy⟩ := rounds
  · cases min with
    | zero =>
      rw [ends, List.mem_eraseDups, mem_prefer, hmore i hi, List.mem_singleton, Matches]
      constructor
      · rintro (⟨n, hn⟩ | rfl)
        · exact ⟨n + 1, ⟨Nat.zero_le _, .inr (hnone _)⟩, hn⟩
        · exact ⟨0, ⟨Nat.zero_le _, .inl rfl⟩, rfl⟩
      · rintro ⟨n, -, hn⟩
        cases n with
        | zero => exact .inr hn.symm
        | succ n => exact .inl ⟨n, hn⟩
    | succ min =>
      rw [ends, List.mem_eraseDups, List.mem_flatMap, Matches]
      constructor
      · rintro ⟨j, hj, he⟩
        rw [hexactly] at hj
        obtain ⟨n, hn⟩ := (hmore j (h.iterates_le_size hi hj)).mp he
        refine ⟨min + (n + 1), ⟨?_, .inr (hnone _)⟩, iterates_add.mpr ⟨j, hj, hn⟩⟩
        dsimp only
        omega
      · rintro ⟨n, ⟨hmin, -⟩, hn⟩
        obtain ⟨k, rfl⟩ : ∃ k, n = min + (k + 1) := ⟨n - (min + 1), by dsimp only at hmin; omega⟩
        obtain ⟨j, hj, he⟩ := iterates_add.mp hn
        exact ⟨j, (hexactly min j).mpr hj, (hmore j (h.iterates_le_size hi hj)).mpr ⟨k, he⟩⟩
  · rw [ends, List.mem_eraseDups, List.mem_flatMap, Matches]
    constructor
    · rintro ⟨j, hj, he⟩
      rw [hexactly] at hj
      obtain ⟨k, hk, he⟩ := (h.mem_atMost_iff (h.iterates_le_size hi hj)).mp he
      refine ⟨min + k, ⟨Nat.le_add_right min k, ?_⟩, iterates_add.mpr ⟨j, hj, he⟩⟩
      simp only [Option.mem_some_iff, forall_eq']
      omega
    · rintro ⟨n, ⟨hmin, hmax⟩, hn⟩
      simp only [Option.mem_some_iff, forall_eq'] at hmin hmax
      obtain ⟨k, rfl⟩ := Nat.exists_eq_add_of_le hmin
      obtain ⟨j, hj, he⟩ := iterates_add.mp hn
      exact ⟨j, (hexactly min j).mpr hj,
        (h.mem_atMost_iff (h.iterates_le_size hi hj)).mpr ⟨k, by omega, he⟩⟩

theorem Matches.le (h : r.Matches s i e) : i ≤ e := by
  induction r generalizing i e with
  | empty => exact Nat.le_of_eq h
  | set cs => exact h.2 ▸ Nat.le_succ i
  | look l word => exact Nat.le_of_eq h.2
  | seq a b iha ihb =>
    obtain ⟨j, ha, hb⟩ := h
    exact Nat.le_trans (iha ha) (ihb hb)
  | alt a b iha ihb => exact h.elim iha ihb
  | repetition a rounds ih =>
    obtain ⟨n, -, hn⟩ := h
    exact hn.preserves (P := (i ≤ ·)) (fun j k hj hi ↦ Nat.le_trans hi (ih hj)) (Nat.le_refl i)

theorem Matches.le_size (h : r.Matches s i e) (hi : i ≤ s.size) : e ≤ s.size := by
  induction r generalizing i e with
  | empty => exact h ▸ hi
  | set cs =>
    obtain ⟨hc, rfl⟩ := h
    obtain ⟨c, hc, -⟩ := (Option.any_eq_true _ _).mp hc
    exact (Array.getElem?_eq_some_iff.mp hc).1
  | look l word => exact h.2 ▸ hi
  | seq a b iha ihb =>
    obtain ⟨j, ha, hb⟩ := h
    exact ihb hb (iha ha hi)
  | alt a b iha ihb => exact h.elim (iha · hi) (ihb · hi)
  | repetition a rounds ih =>
    obtain ⟨n, -, hn⟩ := h
    exact hn.preserves (P := (· ≤ s.size)) (fun j k hj hi ↦ ih hj hi) hi

/-- The ends that the search goes through are all there are. -/
theorem mem_ends_iff (hi : i ≤ s.size) : e ∈ ends s r i ↔ r.Matches s i e := by
  induction r generalizing i e with
  | empty => simp [ends, Matches, eq_comm]
  | set cs =>
    rw [ends, Matches]
    split
    · next h => simp [h, eq_comm]
    · next h => simp [h]
  | look l word =>
    rw [ends, Matches]
    split
    · next h => simp [h, eq_comm]
    · next h => simp [h]
  | seq a b iha ihb =>
    rw [ends, List.mem_eraseDups, List.mem_flatMap, Matches]
    refine exists_congr fun j ↦ ?_
    rw [iha hi]
    exact and_congr_right fun hj ↦ ihb (hj.le_size hi)
  | alt a b iha ihb => rw [ends, List.mem_eraseDups, List.mem_append, Matches, iha hi, ihb hi]
  | repetition a rounds ih =>
    exact mem_ends_repetition_iff ⟨fun _ hi _ ↦ ih hi, fun _ _ ↦ Matches.le,
      fun _ hi _ hr ↦ hr.le_size hi⟩ hi

theorem isMatch_iff : r.isMatch s = true ↔ ∃ i ≤ s.size, ∃ e, r.Matches s i e := by
  rw [isMatch, EndTable.find?, List.findSome?_isSome_iff]
  simp only [List.mem_range'_1, size_table, Option.isSome_map, List.isSome_head?]
  constructor
  · rintro ⟨i, hi, he⟩
    have hle : i ≤ s.size := by omega
    obtain ⟨e, he⟩ := List.exists_mem_of_ne_nil _ he
    rw [ends_table hle, mem_ends_iff hle] at he
    exact ⟨i, hle, e, he⟩
  · rintro ⟨i, hi, e, he⟩
    refine ⟨i, by omega, List.ne_nil_of_mem (a := e) ?_⟩
    rwa [ends_table hi, mem_ends_iff hi]

theorem isMatch_anchored_iff {word word' : CharSet} :
    (seq (look .textStart word) (seq r (look .textEnd word'))).isMatch s = true ↔
      r.MatchesWhole s := by
  rw [isMatch_iff]
  simp only [Matches, Look.holds, beq_iff_eq]
  constructor
  · rintro ⟨i, -, e, _, ⟨rfl, rfl⟩, k, hm, rfl, rfl⟩
    exact hm
  · exact fun hm ↦ ⟨0, Nat.zero_le _, s.size, 0, ⟨rfl, rfl⟩, s.size, hm, rfl, rfl⟩

end TopDown.Regex
