import TopDown.Proofs.Nullable

namespace TopDown

namespace Grammar.LeftRecursion

namespace Search

variable {a b c : Search} {f : Search → Nat → Search} {id i : Nat}

theorem mark_setMark (a : Search) (id : Nat) (m : Mark) (i : Nat) :
    (a.setMark id m).mark i = if i = id ∧ id < a.marks.size then m else a.mark i := by
  unfold mark setMark
  simp only [Array.getD_eq_getD_getElem?, Array.getElem?_setIfInBounds]
  by_cases hi : i = id
  · subst hi
    by_cases hs : i < a.marks.size <;> simp [hs]
  · simp [hi, Ne.symm hi]

theorem mark_setMark_of_ne (m : Mark) (h : i ≠ id) : (a.setMark id m).mark i = a.mark i := by
  rw [mark_setMark, if_neg fun hi ↦ h hi.1]

theorem mark_of_size_le (h : a.marks.size ≤ i) : a.mark i = .done := by
  rw [mark, Array.getD_eq_getD_getElem?, Array.getElem?_eq_none h]
  rfl

theorem mark_setMark_self (a : Search) (id : Nat) (m : Mark) :
    (a.setMark id m).mark id = m ∨ (a.setMark id m).mark id = .done := by
  rw [mark_setMark]
  split
  · exact .inl rfl
  · rename_i hs
    exact .inr (mark_of_size_le (Nat.not_lt.mp fun h ↦ hs ⟨rfl, h⟩))

@[simp] theorem mark_setMark_done (a : Search) (id : Nat) :
    (a.setMark id .done).mark id = .done :=
  or_self_iff.mp (a.mark_setMark_self id .done)

/-- What the search does while rules are active: it deals with fresh ones and finds cycles. -/
structure Extends (a b : Search) : Prop where
  mark_eq_or : ∀ i, b.mark i = a.mark i ∨ a.mark i = .fresh ∧ b.mark i = .done
  cycles_suffix : a.cycles <:+ b.cycles

theorem Extends.refl (a : Search) : a.Extends a :=
  ⟨fun _ ↦ .inl rfl, List.suffix_rfl⟩

theorem Extends.trans (h : a.Extends b) (h' : b.Extends c) : a.Extends c := by
  refine ⟨fun i ↦ ?_, h.cycles_suffix.trans h'.cycles_suffix⟩
  obtain hb | ⟨ha, hb⟩ := h.mark_eq_or i
  · rw [← hb]
    exact h'.mark_eq_or i
  · obtain hc | ⟨hb', -⟩ := h'.mark_eq_or i
    · exact .inr ⟨ha, hc.trans hb⟩
    · rw [hb] at hb'
      cases hb'

theorem Extends.ne_active (h : a.Extends b) (ha : a.mark i ≠ .active) : b.mark i ≠ .active := by
  obtain hb | ⟨-, hb⟩ := h.mark_eq_or i
  · rwa [hb]
  · rw [hb]
    nofun

def Avoids (P : Nat → Prop) (a : Search) : Prop :=
  ∀ cycle ∈ a.cycles, ∀ id ∈ cycle, ¬ P id

theorem Extends.avoids {P : Nat → Prop} (h : a.Extends b) (hb : b.Avoids P) : a.Avoids P :=
  fun cycle hc ↦ hb cycle (h.cycles_suffix.subset hc)

theorem extends_foldl (hf : ∀ a i, Extends a (f a i)) (ids : List Nat) :
    a.Extends (ids.foldl f a) := by
  induction ids generalizing a with
  | nil => exact .refl a
  | cons i ids ih => exact (hf a i).trans ih

theorem foldl_of_avoids {P Q : Nat → Prop} {I : Search → Prop}
    (hext : ∀ a i, Extends a (f a i))
    (hf : ∀ a i, I a → (f a i).Avoids P → I (f a i) ∧ Q i) {ids : List Nat} (ha : I a)
    (hc : (ids.foldl f a).Avoids P) : I (ids.foldl f a) ∧ ∀ i ∈ ids, Q i := by
  induction ids generalizing a with
  | nil => exact ⟨ha, nofun⟩
  | cons i ids ih =>
    obtain ⟨hi, hq⟩ := hf a i ha ((extends_foldl hext ids).avoids hc)
    obtain ⟨hi', hq'⟩ := ih hi hc
    exact ⟨hi', List.forall_mem_cons.mpr ⟨hq, hq'⟩⟩

end Search

variable {corners : Nat → List Nat} {a : Search} {depth id : Nat} {path : List Nat}

def follow (corners : Nat → List Nat) (depth : Nat) (path : List Nat) (a : Search) (next : Nat) :
    Search :=
  match a.mark next with
  | .fresh => visit corners depth next path a
  | .active => a.addCycle path next
  | .done => a

theorem visit_succ (a : Search) :
    visit corners (depth + 1) id path a =
      ((corners id).foldl (follow corners depth (id :: path)) (a.setMark id .active)).setMark id
        .done := rfl

theorem extends_follow
    (hv : ∀ next, a.mark next = .fresh → a.Extends (visit corners depth next path a)) (next : Nat) :
    a.Extends (follow corners depth path a next) := by
  unfold follow
  cases hm : a.mark next with
  | fresh => exact hv next hm
  | active => exact ⟨fun _ ↦ .inl rfl, List.suffix_cons _ _⟩
  | done => exact .refl a

theorem extends_visit (hid : a.mark id = .fresh) : a.Extends (visit corners depth id path a) := by
  induction depth generalizing a id path with
  | zero => exact .refl a
  | succ depth ih =>
    have hround (b : Search) (next : Nat) : b.Extends (follow corners depth (id :: path) b next) :=
      extends_follow (fun _ ↦ ih) next
    have hfold := Search.extends_foldl (a := a.setMark id .active) hround (corners id)
    rw [visit_succ]
    refine ⟨fun i ↦ ?_, hfold.cycles_suffix⟩
    by_cases hi : i = id
    · rw [hi, Search.mark_setMark_done]
      exact .inr ⟨hid, rfl⟩
    · have h := hfold.mark_eq_or i
      rwa [Search.mark_setMark_of_ne _ hi] at h ⊢

def Follows (corners : Nat → List Nat) (next id : Nat) : Prop :=
  next ∈ corners id

def FollowsIn (P : Nat → Prop) (corners : Nat → List Nat) (next id : Nat) : Prop :=
  Follows corners next id ∧ P next

/--
No rule that is dealt with leads on for ever through rules with the property, and the fresh rules
are among `left`.
-/
structure Search.Sound (P : Nat → Prop) (corners : Nat → List Nat) (left : Finset Nat)
    (a : Search) : Prop where
  acc : ∀ i, a.mark i = .done → Acc (FollowsIn P corners) i
  mem_left : ∀ i, a.mark i = .fresh → i ∈ left

variable {P : Nat → Prop} {left : Finset Nat}

theorem Search.Sound.setMark_active (ha : a.Sound P corners left) :
    (a.setMark id .active).Sound P corners (left.erase id) := by
  constructor
  · intro i hi
    rw [mark_setMark] at hi
    split at hi
    · cases hi
    · exact ha.acc i hi
  · intro i hi
    have hne : i ≠ id := by
      rintro rfl
      rcases a.mark_setMark_self i .active with h | h
      · rw [h] at hi
        cases hi
      · rw [h] at hi
        cases hi
    rw [mark_setMark_of_ne _ hne] at hi
    exact Finset.mem_erase.mpr ⟨hne, ha.mem_left i hi⟩

theorem Search.Sound.setMark_done (ha : a.Sound P corners (left.erase id))
    (hid : Acc (FollowsIn P corners) id) : (a.setMark id .done).Sound P corners left := by
  constructor
  · intro i hi
    by_cases hne : i = id
    · exact hne ▸ hid
    · rw [mark_setMark_of_ne _ hne] at hi
      exact ha.acc i hi
  · intro i hi
    have hne : i ≠ id := by
      rintro rfl
      rw [mark_setMark_done] at hi
      cases hi
    rw [mark_setMark_of_ne _ hne] at hi
    exact Finset.mem_of_mem_erase (ha.mem_left i hi)

theorem sound_follow {next : Nat}
    (hv : a.mark next = .fresh → (visit corners depth next path a).Avoids P →
      (visit corners depth next path a).Sound P corners left ∧ Acc (FollowsIn P corners) next)
    (ha : a.Sound P corners left) (hc : (follow corners depth path a next).Avoids P) :
    (follow corners depth path a next).Sound P corners left ∧
      (P next → Acc (FollowsIn P corners) next) := by
  unfold follow at hc ⊢
  cases hm : a.mark next with
  | fresh =>
    simp only [hm] at hc ⊢
    obtain ⟨hs, hacc⟩ := hv hm hc
    exact ⟨hs, fun _ ↦ hacc⟩
  | active =>
    simp only [hm] at hc ⊢
    exact ⟨⟨ha.acc, ha.mem_left⟩, fun hp ↦ absurd hp (hc _ List.mem_cons_self _ List.mem_cons_self)⟩
  | done => exact ⟨ha, fun _ ↦ ha.acc next hm⟩

/-- As long as the depth suffices for the fresh rules, the search goes through all left corners. -/
theorem sound_visit (hid : a.mark id = .fresh) (ha : a.Sound P corners left)
    (hcard : left.card ≤ depth) (hc : (visit corners depth id path a).Avoids P) :
    (visit corners depth id path a).Sound P corners left ∧ Acc (FollowsIn P corners) id := by
  induction depth generalizing a id path left with
  | zero =>
    rw [Nat.le_zero, Finset.card_eq_zero] at hcard
    exact absurd (ha.mem_left id hid) (hcard ▸ Finset.notMem_empty id)
  | succ depth ih =>
    -- The rule is active from here on, and so one fewer is left to be visited below it.
    have hcard' : (left.erase id).card ≤ depth := by
      rw [Finset.card_erase_of_mem (ha.mem_left id hid)]
      omega
    rw [visit_succ] at hc ⊢
    have hext (b : Search) (next : Nat) : b.Extends (follow corners depth (id :: path) b next) :=
      extends_follow (fun _ ↦ extends_visit) next
    obtain ⟨hs, hacc⟩ := Search.foldl_of_avoids hext
      (fun b next hb ↦ sound_follow (fun hm ↦ ih hm hb hcard') hb) ha.setMark_active hc
    have hid' : Acc (FollowsIn P corners) id := .intro id fun next hn ↦ hacc next hn.1 hn.2
    exact ⟨hs.setMark_done hid', hid'⟩

def visitRoot (corners : Nat → List Nat) (depth : Nat) (a : Search) (id : Nat) : Search :=
  match a.mark id with
  | .fresh => visit corners depth id [] a
  | _ => a

theorem extends_visitRoot (a : Search) (id : Nat) : a.Extends (visitRoot corners depth a id) := by
  unfold visitRoot
  cases hm : a.mark id with
  | fresh => exact extends_visit hm
  | active | done => exact .refl a

theorem sound_visitRoot (hactive : a.mark id ≠ .active)
    (ha : a.Sound P corners (Finset.range depth))
    (hc : (visitRoot corners depth a id).Avoids P) :
    (visitRoot corners depth a id).Sound P corners (Finset.range depth) ∧
      Acc (FollowsIn P corners) id := by
  unfold visitRoot at hc ⊢
  cases hm : a.mark id with
  | fresh =>
    simp only [hm] at hc ⊢
    exact sound_visit hm ha (Finset.card_range depth).le hc
  | active => exact absurd hm hactive
  | done => exact ⟨ha, ha.acc id hm⟩

theorem mark_replicate (n i : Nat) :
    (⟨Array.replicate n .fresh, []⟩ : Search).mark i = if i < n then .fresh else .done := by
  unfold Search.mark
  rw [Array.getD_eq_getD_getElem?, Array.getElem?_replicate]
  split <;> rfl

theorem sound_replicate {n : Nat} (hn : ∀ i, n ≤ i → corners i = []) :
    (⟨Array.replicate n .fresh, []⟩ : Search).Sound P corners (Finset.range n) := by
  constructor
  · intro i hi
    have hle : n ≤ i := by
      by_contra hlt
      rw [mark_replicate, if_pos (Nat.not_le.mp hlt)] at hi
      cases hi
    refine .intro i fun next hnext ↦ ?_
    rw [FollowsIn, Follows, hn i hle] at hnext
    cases hnext.1
  · intro i hi
    rw [Finset.mem_range]
    by_contra hlt
    rw [mark_replicate, if_neg hlt] at hi
    cases hi

theorem acc_of_avoids {n : Nat} {ids : List Nat} (hn : ∀ i, n ≤ i → corners i = [])
    (hc : (ids.foldl (visitRoot corners n) ⟨Array.replicate n .fresh, []⟩).Avoids P) :
    ∀ id ∈ ids, Acc (FollowsIn P corners) id := by
  have hround : ∀ (b : Search) (id : Nat),
      b.Sound P corners (Finset.range n) ∧ (∀ i, b.mark i ≠ .active) →
      (visitRoot corners n b id).Avoids P →
      ((visitRoot corners n b id).Sound P corners (Finset.range n) ∧
        ∀ i, (visitRoot corners n b id).mark i ≠ .active) ∧ Acc (FollowsIn P corners) id := by
    rintro b id ⟨hs, ha⟩ hc
    obtain ⟨hs', hacc⟩ := sound_visitRoot (ha id) hs hc
    exact ⟨⟨hs', fun i ↦ (extends_visitRoot b id).ne_active (ha i)⟩, hacc⟩
  have hactive : ∀ i, (⟨Array.replicate n .fresh, []⟩ : Search).mark i ≠ .active := by
    intro i
    rw [mark_replicate]
    split <;> nofun
  exact (Search.foldl_of_avoids extends_visitRoot hround ⟨sound_replicate hn, hactive⟩ hc).2

end Grammar.LeftRecursion

namespace Grammar

open LeftRecursion

variable {g : Grammar} {nullable : Array Bool} {id next : Nat} {xs : List Symbol}

theorem leadingNonTerminals_append (xs ys : List Symbol) :
    leadingNonTerminals nullable (xs ++ ys) = leadingNonTerminals nullable xs ++
      if allKnown nullable xs then leadingNonTerminals nullable ys else [] := by
  induction xs with
  | nil => rfl
  | cons x xs ih =>
    cases x with
    | nonTerminal id =>
      rw [List.cons_append, leadingNonTerminals, leadingNonTerminals, allKnown_cons_nonTerminal]
      by_cases hid : isKnown nullable id
      · simp only [hid, if_true, ih, Bool.true_and, List.cons_append]
      · simp only [hid, Bool.false_eq_true, if_false, Bool.false_and, List.append_nil]
    | terminal | endMarker => rfl

theorem mem_leadingNonTerminals_iff :
    next ∈ leadingNonTerminals nullable xs ↔ ∃ before after,
      xs = before ++ .nonTerminal next :: after ∧ allKnown nullable before = true := by
  constructor
  · intro h
    induction xs with
    | nil => cases h
    | cons x xs ih =>
      cases x with
      | nonTerminal id =>
        rw [leadingNonTerminals, List.mem_cons] at h
        rcases h with rfl | h
        · exact ⟨[], xs, rfl, rfl⟩
        · by_cases hid : isKnown nullable id = true
          · rw [if_pos hid] at h
            obtain ⟨before, after, rfl, hb⟩ := ih h
            refine ⟨.nonTerminal id :: before, after, rfl, ?_⟩
            rw [allKnown_cons_nonTerminal, hid, hb, Bool.and_self]
          · rw [if_neg hid] at h
            cases h
      | terminal | endMarker => cases h
  · rintro ⟨before, after, rfl, hb⟩
    rw [leadingNonTerminals_append, if_pos hb]
    exact List.mem_append_right _ List.mem_cons_self

theorem leftCorners_eq_nil_of_le (h : g.rules.size ≤ id) : g.leftCorners nullable id = [] := by
  rw [leftCorners, alternativesOf_eq_nil_of_le h]
  rfl

theorem getD_leftCorners (g : Grammar) (nullable : Array Bool) (id : Nat) :
    (Array.ofFn fun id : Fin g.rules.size ↦ g.leftCorners nullable id).getD id [] =
      g.leftCorners nullable id := by
  rw [Array.getD_eq_getD_getElem?, Array.getElem?_ofFn]
  split
  · rfl
  · rename_i h
    rw [leftCorners_eq_nil_of_le (Nat.not_lt.mp h)]
    rfl

theorem leftRecursiveCycles_eq :
    g.leftRecursiveCycles = (g.nonTerminals.foldl
      (visitRoot (g.leftCorners g.nullable) g.rules.size)
      ⟨Array.replicate g.rules.size .fresh, []⟩).cycles.reverse := by
  have hc : ((Array.ofFn fun id : Fin g.rules.size ↦ g.leftCorners g.nullable id).getD · []) =
      g.leftCorners g.nullable := funext (getD_leftCorners g g.nullable)
  unfold leftRecursiveCycles
  simp only [hc]
  rfl

theorem wellFounded_of_avoids {P : Nat → Prop}
    (h : ∀ cycle ∈ g.leftRecursiveCycles, ∀ id ∈ cycle, ¬ P id) :
    WellFounded (FollowsIn P (g.leftCorners g.nullable)) := by
  rw [leftRecursiveCycles_eq] at h
  refine ⟨fun id ↦ ?_⟩
  by_cases hid : id < g.rules.size
  · refine acc_of_avoids (fun _ ↦ leftCorners_eq_nil_of_le) (fun cycle hc ↦ ?_) id
      (List.mem_range.mpr hid)
    exact h cycle (List.mem_reverse.mpr hc)
  · refine .intro id fun next hnext ↦ ?_
    rw [FollowsIn, Follows, leftCorners_eq_nil_of_le (Nat.not_lt.mp hid)] at hnext
    cases hnext.1

theorem wellFounded_of_leftRecursiveCycles (h : g.leftRecursiveCycles = []) :
    WellFounded (Follows (g.leftCorners g.nullable)) := by
  have hwf : WellFounded (FollowsIn (fun _ ↦ True) (g.leftCorners g.nullable)) :=
    wellFounded_of_avoids (by rw [h]; nofun)
  exact Subrelation.wf (fun hnext ↦ ⟨hnext, trivial⟩) hwf

theorem leftRecursiveCycles_congr {g' : Grammar} (hr : g'.rules = g.rules) :
    g'.leftRecursiveCycles = g.leftRecursiveCycles := by
  have hcorners : g'.leftCorners g'.nullable = g.leftCorners g.nullable := by
    funext id
    rw [nullable_congr hr, leftCorners, leftCorners, alternativesOf, alternativesOf, hr]
  rw [leftRecursiveCycles_eq, leftRecursiveCycles_eq, hcorners, nonTerminals, nonTerminals, hr]

theorem leftRecursiveCycles_warnings (g : Grammar) (warnings : List GrammarWarning) :
    ({ g with warnings } : Grammar).leftRecursiveCycles = g.leftRecursiveCycles :=
  leftRecursiveCycles_congr (by rfl)

theorem leftRecursiveCycles_of_build {b : GrammarBuilder} (h : b.build = .ok g)
    (hb : b.allowLeftRecursion = false) : g.leftRecursiveCycles = [] := by
  obtain ⟨entryPoint, terminals, warnings, -, -, -, hv, rfl⟩ :=
    GrammarBuilder.build_eq_ok_iff.mp h
  rw [leftRecursiveCycles_warnings]
  simp only [validate, hb, Bool.not_false, Bool.and_true] at hv
  by_contra hne
  simp [hne] at hv

end Grammar

end TopDown
