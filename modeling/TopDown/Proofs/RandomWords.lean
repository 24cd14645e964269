import Mathlib.Data.FinEnum
import TopDown.Proofs.SentenceHeight

namespace TopDown

open Function

namespace Sentence

/-- What shifts to the left and to the right have in common. -/
structure IsShift {w : Nat} (shift : BitVec w → Nat → BitVec w) : Prop where
  add (x : BitVec w) (m n : Nat) : shift x (m + n) = shift (shift x m) n
  xor (x y : BitVec w) (n : Nat) : shift (x ^^^ y) n = shift x n ^^^ shift y n
  eq_zero (x : BitVec w) {n : Nat} (h : w ≤ n) : shift x n = 0#w

namespace IsShift

variable {w k : Nat} {shift : BitVec w → Nat → BitVec w}

theorem left (w : Nat) : IsShift fun (x : BitVec w) n ↦ x <<< n :=
  ⟨BitVec.shiftLeft_add, BitVec.shiftLeft_xor_distrib, fun _ _ ↦ BitVec.shiftLeft_eq_zero⟩

theorem right (w : Nat) : IsShift fun (x : BitVec w) n ↦ x >>> n :=
  ⟨BitVec.shiftRight_add, BitVec.ushiftRight_xor_distrib, fun _ _ ↦ BitVec.ushiftRight_eq_zero⟩

/-- Repeated often enough a shift loses every bit, so that it leaves only zero as it is. -/
theorem eq_zero_of_fixed (hs : IsShift shift) (hk : 0 < k) {x : BitVec w} (hx : shift x k = x) :
    x = 0#w := by
  have hrepeat (n : Nat) : shift x ((n + 1) * k) = x := by
    induction n with
    | zero => rw [Nat.zero_add, Nat.one_mul, hx]
    | succ n ih => rw [Nat.add_mul, Nat.one_mul, hs.add, ih, hx]
  have hlost : w ≤ (w + 1) * k := (Nat.le_succ w).trans (Nat.le_mul_of_pos_right _ hk)
  exact (hrepeat w).symm.trans (hs.eq_zero x hlost)

theorem xor_injective (hs : IsShift shift) (hk : 0 < k) : Injective fun x ↦ x ^^^ shift x k := by
  intro x y h
  replace h : x ^^^ shift x k = y ^^^ shift y k := h
  -- What two such words differ by is a word that the shift leaves as it is.
  have hfixed : shift (x ^^^ y) k = x ^^^ y :=
    calc shift (x ^^^ y) k
      _ = shift x k ^^^ shift y k := hs.xor x y k
      _ = x ^^^ (x ^^^ shift x k) ^^^ shift y k := by
        rw [← BitVec.xor_assoc x x, BitVec.xor_self, BitVec.zero_xor]
      _ = x ^^^ (y ^^^ shift y k) ^^^ shift y k := by rw [h]
      _ = x ^^^ y := by rw [BitVec.xor_assoc, BitVec.xor_assoc, BitVec.xor_self, BitVec.xor_zero]
  exact BitVec.xor_eq_zero_iff.mp (hs.eq_zero_of_fixed hk hfixed)

end IsShift

namespace Rng

theorem advance_injective : Injective advance := by
  have hsteps : UInt64.toBitVec ∘ advance =
      (fun x : BitVec 64 ↦ x ^^^ x <<< 17) ∘ (fun x : BitVec 64 ↦ x ^^^ x >>> 7) ∘
        (fun x : BitVec 64 ↦ x ^^^ x <<< 13) ∘ UInt64.toBitVec := rfl
  have hfirst : Injective fun x : BitVec 64 ↦ x ^^^ x <<< 13 :=
    (IsShift.left 64).xor_injective (by decide)
  have hsecond : Injective fun x : BitVec 64 ↦ x ^^^ x >>> 7 :=
    (IsShift.right 64).xor_injective (by decide)
  have hthird : Injective fun x : BitVec 64 ↦ x ^^^ x <<< 17 :=
    (IsShift.left 64).xor_injective (by decide)
  have hbits : Injective (UInt64.toBitVec ∘ advance) := by
    rw [hsteps]
    exact hthird.comp (hsecond.comp (hfirst.comp fun _ _ ↦ UInt64.toBitVec_inj.mp))
  exact hbits.of_comp

theorem advance_bijective : Bijective advance :=
  Finite.injective_iff_bijective.mp advance_injective

theorem advance_ne_zero_iff {word : UInt64} : advance word ≠ 0 ↔ word ≠ 0 :=
  advance_injective.ne_iff' rfl

theorem state_ofSeed_ne_zero (seed : Option UInt64) : (ofSeed seed).state ≠ 0 := by
  cases seed with
  | none => decide
  | some seed =>
    rw [ofSeed]
    split_ifs with h
    · decide
    · exact h

theorem state_ofSeed_some {seed : UInt64} (h : seed ≠ 0) : (ofSeed (some seed)).state = seed := by
  rw [ofSeed, if_neg h]

inductive Draw where
  | word
  | below (bound : Nat)
  deriving DecidableEq, Repr

def afterDraw (rng : Rng) : Draw → Rng
  | .word => rng.next.2
  | .below bound => (rng.below bound).2

def after (rng : Rng) (draws : List Draw) : Rng :=
  draws.foldl afterDraw rng

variable {rng r r' : Rng} {draws draws' : List Draw}

theorem state_afterDraw (rng : Rng) (draw : Draw) :
    (rng.afterDraw draw).state = advance rng.state := by
  cases draw <;> rfl

theorem state_after (rng : Rng) (draws : List Draw) :
    (rng.after draws).state = advance^[draws.length] rng.state := by
  induction draws generalizing rng with
  | nil => rfl
  | cons draw draws ih =>
    calc (rng.after (draw :: draws)).state
      _ = ((rng.afterDraw draw).after draws).state := rfl
      _ = advance^[draws.length] (rng.afterDraw draw).state := ih _
      _ = advance^[(draw :: draws).length] rng.state := by rw [state_afterDraw]; rfl

theorem state_after_ne_zero (h : rng.state ≠ 0) (draws : List Draw) :
    (rng.after draws).state ≠ 0 := by
  rw [state_after]
  exact ((advance_injective.iterate _).ne_iff' (iterate_fixed rfl _)).mpr h

theorem state_after_ne (h : r.state ≠ r'.state) (hlen : draws.length = draws'.length) :
    (r.after draws).state ≠ (r'.after draws').state := by
  rw [state_after, state_after, hlen]
  exact (advance_injective.iterate _).ne h

/-- Whether a generator is what some draws below positive bounds leave of another. -/
def LeadsTo (rng r : Rng) : Prop :=
  ∃ bounds : List Nat, (∀ n ∈ bounds, 0 < n) ∧ rng.after (bounds.map .below) = r

theorem LeadsTo.refl (rng : Rng) : rng.LeadsTo rng :=
  ⟨[], fun _ hn ↦ absurd hn List.not_mem_nil, rfl⟩

theorem LeadsTo.trans (h : rng.LeadsTo r) (h' : r.LeadsTo r') : rng.LeadsTo r' := by
  obtain ⟨bounds, hpos, rfl⟩ := h
  obtain ⟨bounds', hpos', rfl⟩ := h'
  refine ⟨bounds ++ bounds', List.forall_mem_append.mpr ⟨hpos, hpos'⟩, ?_⟩
  rw [after, List.map_append, List.foldl_append]
  rfl

theorem leadsTo_below (rng : Rng) {bound : Nat} (h : 0 < bound) :
    rng.LeadsTo (rng.below bound).2 :=
  ⟨[bound], List.forall_mem_singleton.mpr h, rfl⟩

end Rng

namespace Generator

variable {gen : Generator} {rng : Rng}

theorem leadsTo_sample (id : Nat) (rng : Rng) : rng.LeadsTo (gen.sample id rng).2 := by
  unfold sample
  split
  · split <;> exact .refl rng
  · next tokens hne => exact Rng.leadsTo_below rng (List.length_pos_of_ne_nil hne)

theorem leadsTo_expandAll {f : Symbol → Rng → Option (List String) × Rng}
    (hf : ∀ (x : Symbol) (rng : Rng), rng.LeadsTo (f x rng).2) (xs : List Symbol) (rng : Rng) :
    rng.LeadsTo (expandAll f xs rng).2 := by
  induction xs generalizing rng with
  | nil => exact .refl rng
  | cons x xs ih =>
    have hx := hf x rng
    rw [expandAll]
    split
    · next r hfirst =>
      rw [hfirst] at hx
      exact hx
    · next tokens r hfirst =>
      rw [hfirst] at hx
      have hxs := hx.trans (ih r)
      split
      · next r' hmore =>
        rw [hmore] at hxs
        exact hxs
      · next more r' hmore =>
        rw [hmore] at hxs
        exact hxs

theorem leadsTo_expand (fuel depth id : Nat) (rng : Rng) :
    rng.LeadsTo (gen.expand fuel depth id rng).2 := by
  induction fuel generalizing depth id rng with
  | zero => exact .refl rng
  | succ fuel ih =>
    by_cases hne : gen.candidatesOf depth id = []
    · rw [expand_of_eq_nil hne]
      exact .refl rng
    · rw [expand_of_ne_nil hne rfl]
      refine (Rng.leadsTo_below rng (List.length_pos_of_ne_nil hne)).trans
        (leadsTo_expandAll (fun x r ↦ ?_) _ _)
      cases x with
      | nonTerminal inner => exact ih _ inner r
      | terminal inner => exact leadsTo_sample inner r
      | endMarker => exact .refl r

theorem leadsTo_sentence (rng : Rng) : rng.LeadsTo (gen.sentence rng).2 :=
  leadsTo_expand _ _ _ rng

theorem exists_leadsTo_of_mem_sentences {n : Nat} {tokens : List String}
    (h : tokens ∈ gen.sentences n rng) :
    ∃ r, rng.LeadsTo r ∧ (gen.sentence r).1 = some tokens := by
  induction n generalizing rng with
  | zero => cases h
  | succ n ih =>
    rw [sentences] at h
    rcases List.mem_append.mp h with hfirst | hlater
    · exact ⟨rng, .refl rng, Option.mem_toList.mp hfirst⟩
    · obtain ⟨r, hr, ht⟩ := ih hlater
      exact ⟨r, (leadsTo_sentence rng).trans hr, ht⟩

end Generator

end Sentence

open TopDown.Sentence

/--
Whatever the seed and the draws, the state and the next word are not zero. A step maps the words
one to one onto themselves, and so different seeds, other than zero, lead to different words at
every draw. Sentences take only such draws, below positive bounds.
-/
theorem random_words_nonzero_and_distinct :
    (∀ (seed : Option UInt64) (draws : List Rng.Draw),
      ((Rng.ofSeed seed).after draws).state ≠ 0 ∧ ((Rng.ofSeed seed).after draws).next.1 ≠ 0) ∧
    (Bijective fun word : UInt64 ↦ (Rng.mk word).next.2.state) ∧
    (∀ seed seed' : UInt64, seed ≠ 0 → seed' ≠ 0 → seed ≠ seed' →
      ∀ draws draws' : List Rng.Draw, draws.length = draws'.length →
        ((Rng.ofSeed (some seed)).after draws).next.1 ≠
          ((Rng.ofSeed (some seed')).after draws').next.1) ∧
    ∀ (gen : Generator) (n : Nat), ∀ tokens ∈ gen.generateMany n, ∃ bounds : List Nat,
      (∀ bound ∈ bounds, 0 < bound) ∧
        (gen.sentence ((Rng.ofSeed gen.seed).after (bounds.map .below))).1 = some tokens := by
  refine ⟨fun seed draws ↦ ?_, Rng.advance_bijective,
    fun seed seed' hseed hseed' hne draws draws' hlen ↦ ?_, fun gen n tokens ht ↦ ?_⟩
  · have hstate := Rng.state_after_ne_zero (Rng.state_ofSeed_ne_zero seed) draws
    exact ⟨hstate, Rng.advance_ne_zero_iff.mpr hstate⟩
  · rw [← Rng.state_ofSeed_some hseed, ← Rng.state_ofSeed_some hseed'] at hne
    exact Rng.advance_injective.ne (Rng.state_after_ne hne hlen)
  · obtain ⟨r, ⟨bounds, hpos, rfl⟩, hsentence⟩ := Generator.exists_leadsTo_of_mem_sentences ht
    exact ⟨bounds, hpos, hsentence⟩

theorem random_words_nonzero_and_distinct_oneOrTwo :
    (Rng.ofSeed (some 1)).next.1 = 1082269761 ∧ (Rng.ofSeed (some 2)).next.1 = 2164539522 ∧
    ((Rng.ofSeed (some 0)).after [.below 2, .word]).next.1 ≠ 0 ∧
    ((Rng.ofSeed (some 1)).after [.word, .below 6]).next.1 ≠
      ((Rng.ofSeed (some 2)).after [.below 3, .word]).next.1 ∧
    ∃ gen : Generator, gen = { grammar := .oneOrTwo, seed := some 2 } ∧
      gen.generateMany 2 = [["a", "a", "b"], ["a", "b"]] ∧
      ∃ bounds : List Nat, (∀ bound ∈ bounds, 0 < bound) ∧
        (gen.sentence ((Rng.ofSeed (some 2)).after (bounds.map .below))).1 = some ["a", "b"] := by
  obtain ⟨hnonzero, -, hdistinct, hsentences⟩ := random_words_nonzero_and_distinct
  have hmany : Generator.generateMany { grammar := .oneOrTwo, seed := some 2 } 2 =
      [["a", "a", "b"], ["a", "b"]] := by decide +kernel
  refine ⟨by decide, by decide, (hnonzero (some 0) _).2,
    hdistinct 1 2 (by decide) (by decide) (by decide) _ _ rfl, _, rfl, hmany, ?_⟩
  refine hsentences { grammar := .oneOrTwo, seed := some 2 } 2 _ ?_
  rw [hmany]
  exact List.mem_cons_of_mem _ List.mem_cons_self

end TopDown
