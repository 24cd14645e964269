import TopDown.Proofs.Improvement
import TopDown.Proofs.LeftRecursiveGrammar

namespace TopDown

namespace Grammar

variable {g : Grammar} {known : Array Bool} {v w : Bool} {id patience : Nat}
  {order : List Nat}

theorem nullableImprovement_le_iff :
    g.nullableImprovement.Le v w ↔ (v = true → w = true) := by
  cases v <;> cases w <;> simp [Improvement.Le, nullableImprovement]

theorem lawful_nullableImprovement (g : Grammar) : g.nullableImprovement.Lawful where
  le_trans := by
    simp only [nullableImprovement_le_iff]
    exact fun huv hvw hu ↦ hvw (huv hu)
  le_antisymm := by
    simp only [nullableImprovement_le_iff]
    exact fun hvw hwv ↦ Bool.eq_iff_iff.mpr ⟨hvw, hwv⟩
  le_total v w := by
    simp only [nullableImprovement_le_iff]
    cases w with
    | true => exact .inl fun _ ↦ rfl
    | false => exact .inr nofun
  worst_le v := nullableImprovement_le_iff.mpr nofun
  value_mono {known known'} h id := by
    rw [nullableImprovement_le_iff]
    intro hv
    obtain ⟨alternative, ha, hk⟩ := List.any_eq_true.mp hv
    refine List.any_eq_true.mpr ⟨alternative, ha, allKnown_mono (fun id hid ↦ ?_) hk⟩
    exact nullableImprovement_le_iff.mp (h id) hid

theorem rounds_nullableAfter (g : Grammar) :
    g.nullableImprovement.Rounds g.rules.size g.nullableAfter where
  zero_eq := rfl
  size_eq := g.marks_nullable.size_eq
  entry_succ _ _ _ := isKnown_nullableRound

theorem closed_nullable (g : Grammar) : g.nullableImprovement.Closed g.nullable := by
  intro id
  rw [nullableImprovement_le_iff]
  intro hv
  exact isKnown_nullable.trans hv

theorem nullable_of_search (horder : ∀ id < g.rules.size, id ∈ order)
    (hp : g.rules.size < patience) :
    g.nullableImprovement.best? g.rules.size order patience = some g.nullable :=
  g.rounds_nullableAfter.best?_eq g.lawful_nullableImprovement g.closed_nullable horder hp

theorem isKnown_nullable_iff : isKnown g.nullable id = true ↔ g.Derives [.nonTerminal id] [] := by
  rw [← allKnown_nullable_iff, allKnown_cons_nonTerminal]
  exact (Bool.and_true _ ▸ Iff.rfl)

theorem getElem?_eq_some_true_iff : known[id]? = some true ↔ isKnown known id = true := by
  rw [isKnown, Array.getD_eq_getD_getElem?]
  cases known[id]? <;> simp

end Grammar

open Grammar

/--
Looking through the rules again and again, where a rule that is found counts at once, comes to an
end for every order of the rules. It finds just those non-terminals that derive the empty sequence;
a terminal, whatever tokens it accepts, is never counted as one that does.
-/
theorem nullable_exact (g : Grammar) :
    (∀ order : List Nat, (∀ id < g.rules.size, id ∈ order) → ∀ patience, g.rules.size < patience →
      g.nullableImprovement.best? g.rules.size order patience = some g.nullable) ∧
    g.nullable.size = g.rules.size ∧
    (∀ id, g.nullable[id]? = some true ↔ g.Derives [.nonTerminal id] []) ∧
    (∀ xs, allKnown g.nullable xs = true ↔ g.Derives xs []) ∧
    ∀ id, (∀ alternative ∈ g.alternativesOf id, ∃ terminal, .terminal terminal ∈ alternative) →
      g.nullable[id]? ≠ some true := by
  refine ⟨fun order horder patience hp ↦ nullable_of_search horder hp,
    g.marks_nullable.size_eq _, fun id ↦ ?_, fun xs ↦ allKnown_nullable_iff, fun id ht h ↦ ?_⟩
  · exact getElem?_eq_some_true_iff.trans isKnown_nullable_iff
  · rw [getElem?_eq_some_true_iff, isKnown_nullable] at h
    obtain ⟨alternative, ha, hk⟩ := List.any_eq_true.mp h
    obtain ⟨terminal, hm⟩ := ht alternative ha
    exact Bool.noConfusion (List.all_eq_true.mp hk _ hm)

def GrammarBuilder.emptyLast : GrammarBuilder where
  entryPoint := some "S"
  rules := [⟨"S", [["A", "B"]]⟩, ⟨"A", [["B", "B"]]⟩, ⟨"B", [["C"], []]⟩, ⟨"C", [["x*"]]⟩]
  patterns := ["x*"]

/-- In the order of the rules the search takes four sweeps, against it two. -/
theorem nullable_exact_emptyLast : ∃ g, GrammarBuilder.emptyLast.build = .ok g ∧
    g.nullable = #[true, true, true, false] ∧ g.accepts 0 "" = true ∧
    g.nullableImprovement.best? 4 g.nonTerminals 5 = some g.nullable ∧
    g.nullableImprovement.best? 4 [3, 2, 1, 0] 5 = some g.nullable ∧
    g.Derives [.nonTerminal 0] [] ∧ ¬ g.Derives [.nonTerminal 3] [] := by
  have hok : (GrammarBuilder.emptyLast.build.toOption.any fun g ↦
      g.nullable == #[true, true, true, false] && g.accepts 0 "" && g.rules.size == 4) = true := by
    decide +kernel
  cases hg : GrammarBuilder.emptyLast.build with
  | error e =>
    rw [hg] at hok
    cases hok
  | ok g =>
    simp only [hg, Except.toOption, Option.any_some, Bool.and_eq_true, beq_iff_eq] at hok
    obtain ⟨⟨hn, ha⟩, hs⟩ := hok
    obtain ⟨hend, -, hiff, -⟩ := nullable_exact g
    rw [hs] at hend
    refine ⟨g, rfl, hn, ha, hend _ ?_ 5 (by decide), hend _ (by decide) 5 (by decide), ?_, ?_⟩
    · intro id hid
      rwa [nonTerminals, List.mem_range, hs]
    · exact (hiff 0).mp (by rw [hn]; rfl)
    · rw [← hiff 3, hn]
      decide

end TopDown
