import Mathlib.Data.Finset.Lattice.Fold
import Mathlib.Data.List.Lex
import Mathlib.Data.Set.Finite.Lattice
import Mathlib.Data.Set.Finite.List
import Mathlib.Order.WithBot
import TopDown.Proofs.LeftRecursiveRun

namespace TopDown

/-- Symbols with the choices made for them, both latest first; for a terminal the choice is 0. -/
def turnsOf : List Symbol → List Nat → List (Symbol × Nat)
  | [], _ => []
  | .nonTerminal id :: below, i :: history => (.nonTerminal id, i) :: turnsOf below history
  | x :: below, history => (x, 0) :: turnsOf below history

theorem map_fst_turnsOf (m : List Symbol) (k : List Nat) : (turnsOf m k).map Prod.fst = m := by
  induction m, k using turnsOf.induct with
  | case1 => rfl
  | case2 id below i history ih => rw [turnsOf, List.map_cons, ih]
  | case3 x below history h ih =>
    rw [turnsOf, List.map_cons, ih]
    exact h

/-- What the mode adds to the choices: on the way back, a mark that is above all of them. -/
def Mode.marks : Mode → List (WithTop Nat)
  | .matching => []
  | .backtrack | .success => [⊤]
  | .fail => [⊤, ⊤]

theorem Mode.length_marks_le (m : Mode) : m.marks.length ≤ 2 := by
  cases m <;> decide

theorem Mode.eq_top_of_mem_marks {m : Mode} {x : WithTop Nat} (h : x ∈ m.marks) : x = ⊤ := by
  cases m <;> simp [marks] at h <;> exact h

/--
The place of a state on the walk through the tree of all choices. On the way in a place comes before
all that lie further in, and on the way back after them.
-/
def placeOf (mode : Mode) (turns : List (Symbol × Nat)) : List (WithTop Nat) :=
  (turns.map fun turn ↦ WithTop.some turn.2).reverse ++ mode.marks

section

variable (x : Symbol) (turns : List (Symbol × Nat))

theorem lt_append_cons {α : Type} [LT α] (xs : List α) (a : α) (ys : List α) :
    xs < xs ++ a :: ys := by
  have h : xs ++ [] < xs ++ a :: ys := List.append_left_lt (List.nil_lt_cons a ys)
  rwa [List.append_nil] at h

theorem append_cons_lt {α : Type} [LT α] (xs : List α) {a b : α} (h : a < b) (ys zs : List α) :
    xs ++ a :: ys < xs ++ b :: zs :=
  List.append_left_lt (List.cons_lt_cons_iff.mpr (.inl h))

theorem placeOf_cons (mode : Mode) (i : Nat) :
    placeOf mode ((x, i) :: turns) =
      (turns.map fun turn ↦ WithTop.some turn.2).reverse ++ WithTop.some i :: mode.marks := by
  rw [placeOf, List.map_cons, List.reverse_cons, List.append_assoc, List.singleton_append]

theorem placeOf_further_in (i : Nat) :
    placeOf .matching turns < placeOf .matching ((x, i) :: turns) := by
  rw [placeOf_cons, placeOf, Mode.marks, List.append_nil]
  exact lt_append_cons _ _ _

theorem placeOf_in_lt_back : placeOf .matching turns < placeOf .backtrack turns :=
  List.append_left_lt (List.nil_lt_cons _ _)

theorem placeOf_in_lt_success : placeOf .matching turns < placeOf .success turns :=
  List.append_left_lt (List.nil_lt_cons _ _)

theorem placeOf_back_lt_fail : placeOf .backtrack turns < placeOf .fail turns :=
  List.append_left_lt (lt_append_cons [⊤] ⊤ [])

theorem placeOf_other_choice {i j : Nat} (h : i < j) :
    placeOf .backtrack ((x, i) :: turns) < placeOf .matching ((x, j) :: turns) := by
  rw [placeOf_cons, placeOf_cons]
  exact append_cons_lt _ (WithTop.coe_lt_coe.mpr h) _ _

theorem placeOf_further_back (i : Nat) :
    placeOf .backtrack ((x, i) :: turns) < placeOf .backtrack turns := by
  rw [placeOf_cons]
  exact append_cons_lt _ (WithTop.coe_lt_top i) _ _

end

namespace Configuration

variable {g : Grammar} {s : TokenStream} {c d e : Configuration} {start bound i j n : Nat}

def turns (c : Configuration) : List (Symbol × Nat) :=
  turnsOf c.matched.values c.history.values

theorem map_fst_turns (c : Configuration) : c.turns.map Prod.fst = c.matched.values :=
  map_fst_turnsOf _ _

theorem length_turns (c : Configuration) : c.turns.length = c.matched.size := by
  rw [← List.length_map (f := Prod.fst), map_fst_turns, c.matched.size_eq]

def place (c : Configuration) : List (WithTop Nat) :=
  placeOf c.mode c.turns

theorem Step.place_lt (h : Step g s c d) : c.place < d.place := by
  cases h with
  | expansion => exact placeOf_further_in _ _ 0
  | consume => exact placeOf_further_in _ _ 0
  | acceptance => exact placeOf_in_lt_success _
  | mismatch => exact placeOf_in_lt_back _
  | earlyEnd => exact placeOf_in_lt_back _
  | retreat => exact placeOf_further_back _ _ 0
  | nextAlternative => exact placeOf_other_choice _ _ (Nat.lt_succ_self _)
  | reject => exact placeOf_back_lt_fail _
  | escalate => exact placeOf_further_back _ _ _

theorem Run.place_lt (h : Run g s (n + 1) c d) : c.place < d.place := by
  induction n generalizing c with
  | zero =>
    cases h with
    | cons hs h =>
      cases h
      exact (step_eq_ok_iff.mp hs).place_lt
  | succ n ih =>
    cases h with
    | cons hs h => exact (step_eq_ok_iff.mp hs).place_lt.trans (ih h)

/-- Later configurations of a run have later places. -/
theorem Run.place_lt_of_lt (h : Run g s i c d) (h' : Run g s j c e) (hij : i < j) :
    d.place < e.place := by
  obtain ⟨n, rfl⟩ := Nat.exists_eq_add_of_lt hij
  rw [Nat.add_assoc] at h'
  exact (h.rest h').place_lt

theorem Run.place_ne (h : Run g s i c d) (h' : Run g s j c e) (hij : i ≠ j) :
    d.place ≠ e.place := by
  rcases Nat.lt_or_gt_of_ne hij with hlt | hlt
  · exact (h.place_lt_of_lt h' hlt).ne
  · exact (h'.place_lt_of_lt h hlt).ne'

end Configuration

theorem Grammar.exists_length_alternativesOf_le (g : Grammar) :
    ∃ bound, ∀ id, (g.alternativesOf id).length ≤ bound := by
  refine ⟨(Finset.range g.rules.size).sup fun id ↦ (g.alternativesOf id).length, fun id ↦ ?_⟩
  by_cases hid : id < g.rules.size
  · exact Finset.le_sup (f := fun id ↦ (g.alternativesOf id).length) (Finset.mem_range.mpr hid)
  · rw [alternativesOf_eq_nil_of_le (Nat.not_lt.mp hid)]
    exact Nat.zero_le _

def lowEntries (bound : Nat) : Set (WithTop Nat) :=
  insert ⊤ (WithTop.some '' {i | i ≤ bound})

def lowPlaces (bound n : Nat) : Set (List (WithTop Nat)) :=
  {place | place.length ≤ n ∧ ∀ x ∈ place, x ∈ lowEntries bound}

theorem finite_lowPlaces (bound n : Nat) : (lowPlaces bound n).Finite := by
  have hlow : (lowEntries bound).Finite := ((Set.finite_le_nat bound).image _).insert ⊤
  have := hlow.to_subtype
  refine ((List.finite_length_le (lowEntries bound) n).image (List.map Subtype.val)).subset ?_
  rintro place ⟨hlen, hmem⟩
  lift place to List (lowEntries bound) using hmem
  exact ⟨place, by simpa using hlen, rfl⟩

namespace Configuration

variable {g : Grammar} {s : TokenStream} {c d : Configuration} {start bound n : Nat}

theorem Step.choice_le (hb : ∀ id, (g.alternativesOf id).length ≤ bound) (h : Step g s c d)
    (hc : ∀ turn ∈ c.turns, turn.2 ≤ bound) : ∀ turn ∈ d.turns, turn.2 ≤ bound := by
  cases h with
  | expansion | consume => exact List.forall_mem_cons.mpr ⟨Nat.zero_le _, hc⟩
  | retreat | escalate => exact (List.forall_mem_cons.mp hc).2
  | nextAlternative current other =>
    have hlt := (List.getElem?_eq_some_iff.mp other).1
    exact List.forall_mem_cons.mpr ⟨(hlt.trans_le (hb _)).le, (List.forall_mem_cons.mp hc).2⟩
  | acceptance | mismatch | earlyEnd | reject => exact hc

theorem place_mem_lowPlaces (hc : ∀ turn ∈ c.turns, turn.2 ≤ bound) (hn : c.matched.size ≤ n) :
    c.place ∈ lowPlaces bound (n + 2) := by
  constructor
  · have hmarks := c.mode.length_marks_le
    rw [place, placeOf, List.length_append, List.length_reverse, List.length_map, length_turns]
    omega
  · intro x hx
    rw [place, placeOf, List.mem_append, List.mem_reverse, List.mem_map] at hx
    obtain ⟨turn, ht, rfl⟩ | hx := hx
    · exact Set.mem_insert_of_mem _ ⟨turn.2, hc turn ht, rfl⟩
    · exact Set.mem_insert_iff.mpr (.inl (Mode.eq_top_of_mem_marks hx))

/-- Their places are low and differ, so a run has finitely many configurations with few symbols. -/
theorem finite_setOf_size_le (g : Grammar) (s : TokenStream) (start bound : Nat) :
    {n | ∃ c, Run g s n (.initial start) c ∧ c.matched.size ≤ bound}.Finite := by
  obtain ⟨most, hmost⟩ := g.exists_length_alternativesOf_le
  have : Nonempty Configuration := ⟨.initial start⟩
  choose! reached hrun hsize using fun n
    (hn : ∃ c, Run g s n (.initial start) c ∧ c.matched.size ≤ bound) ↦ hn
  refine .of_injOn (f := fun n ↦ (reached n).place) (fun n hn ↦ ?_) (fun i hi j hj he ↦ ?_)
    (finite_lowPlaces most (bound + 2))
  · refine place_mem_lowPlaces ?_ (hsize n hn)
    exact (hrun n hn).preserves (fun _ _ hc hs ↦ hs.choice_le hmost hc) nofun
  · by_contra hij
    exact (hrun i hi).place_ne (hrun j hj) hij he

theorem Invariant.size_matched (hc : c.Invariant g s start) :
    c.matched.size = c.cursor + c.history.size := by
  rw [← Stack.length_bottomUp, ← hc.replays.length_terminalsOf, ← hc.cursor_eq,
    ← hc.replays.length_history, Stack.length_bottomUp]

theorem exists_forall_lt_size_history (g : Grammar) (s : TokenStream) (start bound : Nat) :
    ∃ n, ∀ m c, n ≤ m → Run g s m (.initial start) c → bound < c.history.size := by
  obtain ⟨n, hn⟩ := (finite_setOf_size_le g s start (s.size + bound)).bddAbove
  refine ⟨n + 1, fun m c hm hr ↦ ?_⟩
  by_contra hle
  have hsmall : c.matched.size ≤ s.size + bound := by
    have hmatched := hr.invariant.size_matched
    have hcursor := hr.invariant.cursor_le
    omega
  have hmn : m ≤ n := hn ⟨c, hr, hsmall⟩
  omega

end Configuration

open TopDown.Configuration

/--
Two configurations of a run differ in the mode, in the symbols dealt with or in the choices made for
these. So the parser never comes back to a configuration, and if it goes on for ever, then both
stacks outgrow every bound for good.
-/
theorem states_differ_and_stacks_grow (g : Grammar) (s : TokenStream) (start : Nat) :
    (∀ (i j : Nat) (c d : Configuration), i ≠ j → Run g s i (.initial start) c →
      Run g s j (.initial start) d →
      ¬ (c.mode = d.mode ∧ c.matched = d.matched ∧ c.history = d.history)) ∧
    ∀ bound, ∃ n, ∀ (m : Nat) (c : Configuration), n ≤ m → Run g s m (.initial start) c →
      bound < c.matched.size ∧ bound < c.history.size := by
  refine ⟨fun i j c d hij hc hd ⟨hmode, hmatched, hhistory⟩ ↦ ?_, fun bound ↦ ?_⟩
  · refine hc.place_ne hd hij ?_
    rw [place, place, turns, turns, hmode, hmatched, hhistory]
  · obtain ⟨n, hn⟩ := exists_forall_lt_size_history g s start bound
    refine ⟨n, fun m c hm hr ↦ ⟨?_, hn m c hm hr⟩⟩
    have hhistory := hn m c hm hr
    have hmatched := hr.invariant.size_matched
    omega

/-- One symbol is dealt with after the first step and after the third, by different choices. -/
theorem states_differ_and_stacks_grow_hiddenRecursion :
    ∃ c d : Configuration, Run .hiddenRecursion (.ofTokens ["z"] "#") 1 (.initial 0) c ∧
      Run .hiddenRecursion (.ofTokens ["z"] "#") 3 (.initial 0) d ∧
      c.mode = d.mode ∧ c.matched = d.matched ∧ c.history ≠ d.history ∧
      ∃ n, ∀ m e, n ≤ m → Run .hiddenRecursion (.ofTokens ["z"] "#") m (.initial 0) e →
        1000 < e.history.size := by
  let c : Configuration := ⟨.matching, 0, .ofList [.nonTerminal 0],
    .ofList [.endMarker, .terminal 0], .ofList [0], .expansion, false⟩
  let d : Configuration := ⟨.matching, 0, .ofList [.nonTerminal 0],
    .ofList [.endMarker, .terminal 1, .nonTerminal 0, .nonTerminal 1], .ofList [1],
    .nextAlternative, false⟩
  have hc : Run .hiddenRecursion (.ofTokens ["z"] "#") 1 (.initial 0) c := by decide +kernel
  have hd : Run .hiddenRecursion (.ofTokens ["z"] "#") 3 (.initial 0) d := by decide +kernel
  obtain ⟨hdiffer, hgrow⟩ :=
    states_differ_and_stacks_grow .hiddenRecursion (.ofTokens ["z"] "#") 0
  obtain ⟨n, hn⟩ := hgrow 1000
  exact ⟨c, d, hc, hd, rfl, rfl, fun h ↦ hdiffer 1 3 c d (by decide) hc hd ⟨rfl, rfl, h⟩,
    n, fun m e hm he ↦ (hn m e hm he).2⟩

end TopDown
