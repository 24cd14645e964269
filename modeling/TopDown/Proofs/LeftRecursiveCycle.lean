import Mathlib.Data.List.Chain
import TopDown.Proofs.LeftRecursion

namespace TopDown

namespace Grammar.LeftRecursion

variable {corners : Nat → List Nat} {a : Search} {depth id next : Nat} {path cycle : List Nat}

/-- Each rule leads to the one after it, and the last rule is the first again. -/
structure IsSimpleCycle (corners : Nat → List Nat) (cycle : List Nat) : Prop where
  isChain : cycle.IsChain fun id next ↦ Follows corners next id
  nodup : cycle.dropLast.Nodup
  two_le_length : 2 ≤ cycle.length
  getLast?_eq : cycle.getLast? = cycle.head?

theorem IsSimpleCycle.exists_transGen (h : IsSimpleCycle corners cycle) :
    ∃ id ∈ cycle, Relation.TransGen (fun id next ↦ Follows corners next id) id id := by
  obtain ⟨hchain, -, hlen, hlast⟩ := h
  match cycle, hlen with
  | id :: next :: rest, _ =>
    rw [List.isChain_cons_cons] at hchain
    rw [List.getLast?_cons_cons, List.head?_cons] at hlast
    refine ⟨id, List.mem_cons_self, .head' hchain.1 ?_⟩
    refine List.relationReflTransGen_of_exists_isChain_cons rest hchain.2 ?_
    exact Option.some.inj ((List.getLast?_eq_some_getLast _).symm.trans hlast)

theorem IsSimpleCycle.not_wellFounded (h : IsSimpleCycle corners cycle) :
    ¬ WellFounded (Follows corners) := by
  intro hwf
  obtain ⟨id, -, hid⟩ := h.exists_transGen
  rw [← Relation.transGen_swap] at hid
  exact hwf.transGen.asymmetric id id hid hid

structure IsPath (corners : Nat → List Nat) (path : List Nat) : Prop where
  isChain : path.IsChain (Follows corners)
  nodup : path.Nodup

theorem IsPath.cons (h : IsPath corners (id :: path)) (hnext : Follows corners next id)
    (hn : next ∉ id :: path) : IsPath corners (next :: id :: path) :=
  ⟨h.isChain.cons_cons hnext, List.nodup_cons.mpr ⟨hn, h.nodup⟩⟩

theorem IsPath.isSimpleCycle (h : IsPath corners (id :: path)) (hnext : Follows corners next id)
    (hm : next ∈ id :: path) :
    IsSimpleCycle corners (next :: (next :: (id :: path).takeWhile (· != next)).reverse) := by
  obtain ⟨hchain, hnodup⟩ := h
  obtain ⟨after, before, hsplit, hn⟩ := List.eq_append_cons_of_mem hm
  have htake : (id :: path).takeWhile (· != next) = after := by
    rw [hsplit, List.takeWhile_append_of_pos (by simpa using fun i hi ↦ ne_of_mem_of_not_mem hi hn)]
    simp
  rw [htake]
  rw [hsplit, List.append_cons] at hchain
  rw [hsplit] at hnodup
  have hcycle : next :: (next :: after).reverse = (next :: (after ++ [next])).reverse := by simp
  refine ⟨?_, ?_, by simp, by simp [List.getLast?_cons]⟩
  · rw [hcycle, List.isChain_reverse, List.isChain_cons]
    refine ⟨fun i hi ↦ ?_, hchain.left_of_append⟩
    cases after with
    | nil | cons j after => cases hsplit; cases hi; exact hnext
  · have hdrop : (next :: (next :: after).reverse).dropLast = (after ++ [next]).reverse := by
      rw [List.reverse_cons, ← List.cons_append, List.dropLast_concat, List.reverse_concat]
    rw [hdrop, List.nodup_reverse]
    exact hnodup.sublist (List.Sublist.append_left (List.singleton_sublist.mpr (by simp)) _)

/-- The active rules are those of the path, and all cycles so far are simple. -/
structure Search.Tracks (corners : Nat → List Nat) (path : List Nat) (a : Search) : Prop where
  mark_eq_active_iff : ∀ i, a.mark i = .active ↔ i ∈ path
  isSimpleCycle : ∀ cycle ∈ a.cycles, IsSimpleCycle corners cycle

theorem Search.Tracks.setMark_active (ha : a.Tracks corners path) (hid : a.mark id = .fresh) :
    (a.setMark id .active).Tracks corners (id :: path) := by
  refine ⟨fun i ↦ ?_, ha.isSimpleCycle⟩
  have hbound : id < a.marks.size := by
    by_contra hle
    rw [mark_of_size_le (Nat.not_lt.mp hle)] at hid
    cases hid
  rw [mark_setMark, List.mem_cons]
  by_cases hi : i = id
  · simp [hi, hbound]
  · simp [hi, ha.mark_eq_active_iff]

theorem Search.Tracks.setMark_done (ha : a.Tracks corners (id :: path)) (hid : id ∉ path) :
    (a.setMark id .done).Tracks corners path := by
  refine ⟨fun i ↦ ?_, ha.isSimpleCycle⟩
  by_cases hi : i = id
  · simp [hi, hid]
  · rw [mark_setMark_of_ne _ hi, ha.mark_eq_active_iff, List.mem_cons, or_iff_right hi]

theorem tracks_follow
    (hv : IsPath corners (next :: id :: path) → a.mark next = .fresh →
      (visit corners depth next (id :: path) a).Tracks corners (id :: path))
    (hpath : IsPath corners (id :: path)) (ha : a.Tracks corners (id :: path))
    (hnext : Follows corners next id) :
    (follow corners depth (id :: path) a next).Tracks corners (id :: path) := by
  unfold follow
  cases hm : a.mark next with
  | fresh =>
    have hn : next ∉ id :: path := by
      rw [← ha.mark_eq_active_iff, hm]
      nofun
    exact hv (hpath.cons hnext hn) hm
  | active =>
    refine ⟨ha.mark_eq_active_iff, List.forall_mem_cons.mpr ⟨?_, ha.isSimpleCycle⟩⟩
    exact hpath.isSimpleCycle hnext ((ha.mark_eq_active_iff next).mp hm)
  | done => exact ha

theorem tracks_visit (hpath : IsPath corners (id :: path)) (hid : a.mark id = .fresh)
    (ha : a.Tracks corners path) : (visit corners depth id path a).Tracks corners path := by
  induction depth generalizing a id path with
  | zero => exact ha
  | succ depth ih =>
    rw [visit_succ]
    refine Search.Tracks.setMark_done ?_ (List.nodup_cons.mp hpath.nodup).1
    refine List.foldlRecOn (corners id) _ (ha.setMark_active hid) fun b hb next hnext ↦ ?_
    exact tracks_follow (fun hp hm ↦ ih hp hm hb) hpath hb hnext

theorem tracks_visitRoot (ha : a.Tracks corners []) :
    (visitRoot corners depth a id).Tracks corners [] := by
  unfold visitRoot
  cases hm : a.mark id with
  | fresh => exact tracks_visit ⟨.singleton id, List.nodup_singleton id⟩ hm ha
  | active | done => exact ha

theorem tracks_replicate (n : Nat) :
    (⟨Array.replicate n .fresh, []⟩ : Search).Tracks corners [] := by
  refine ⟨fun i ↦ ?_, nofun⟩
  rw [mark_replicate]
  split <;> simp

end Grammar.LeftRecursion

namespace Grammar

open LeftRecursion

variable {g : Grammar} {cycle : List Nat}

theorem isSimpleCycle_of_mem_leftRecursiveCycles (h : cycle ∈ g.leftRecursiveCycles) :
    IsSimpleCycle (g.leftCorners g.nullable) cycle := by
  rw [leftRecursiveCycles_eq, List.mem_reverse] at h
  have htracks : (g.nonTerminals.foldl (visitRoot (g.leftCorners g.nullable) g.rules.size)
      ⟨Array.replicate g.rules.size .fresh, []⟩).Tracks (g.leftCorners g.nullable) [] :=
    List.foldlRecOn _ _ (tracks_replicate _) fun _ ha _ _ ↦ tracks_visitRoot ha
  exact htracks.isSimpleCycle cycle h

theorem leftRecursiveCycles_eq_nil_iff :
    g.leftRecursiveCycles = [] ↔ WellFounded (Follows (g.leftCorners g.nullable)) := by
  refine ⟨wellFounded_of_leftRecursiveCycles, fun hwf ↦ ?_⟩
  refine List.eq_nil_iff_forall_not_mem.mpr fun cycle hcycle ↦ ?_
  exact (isSimpleCycle_of_mem_leftRecursiveCycles hcycle).not_wellFounded hwf

end Grammar

end TopDown
