import Mathlib.Data.List.Forall2
import TopDown.Proofs.FollowedText
import TopDown.Proofs.PatternAnchors
import TopDown.Tokenizer

namespace TopDown

namespace Regex

namespace Parser

variable {state s : State} {cs tail : List Char} {names : List String}
  {groups : List (Frame × Flags)}

def State.named (state : State) (names : List String) : State :=
  { state with names := state.names ++ names }

def namedResult (names : List String) (r : Except SyntaxError (State × List Char)) :
    Except SyntaxError (State × List Char) :=
  r.map fun r ↦ (r.1.named names, r.2)

/-- What is read where further names are taken: the same, or nothing if a name comes twice. -/
inductive Retold (names : List String) (x : Except SyntaxError (State × List Char)) :
    Except SyntaxError (State × List Char) → Prop
  | same : Retold names x (namedResult names x)
  | refused (e : SyntaxError) : Retold names x (.error e)

theorem namedResult_bind {α : Type} (x : Except SyntaxError α)
    {f g : α → Except SyntaxError (State × List Char)}
    (h : ∀ a, g a = namedResult names (f a)) : x >>= g = namedResult names (x >>= f) := by
  cases x with
  | error e => rfl
  | ok a => exact h a

theorem takeOperand_named (names : List String) (state : State) :
    (state.named names).takeOperand =
      state.takeOperand.map fun r ↦ (r.1, r.2.named names) := by
  obtain ⟨⟨branches, pieces⟩, flags, outer, taken⟩ := state
  match pieces with
  | [] | .flags :: _ | .part _ :: _ => rfl

theorem repeatLast_named (names : List String) (state : State) (min : Nat) (max : Option Nat)
    (lazy : Bool) (cs : List Char) :
    ((state.named names).repeatLast min max lazy >>= fun s ↦ .ok (s, cs)) =
      namedResult names (state.repeatLast min max lazy >>= fun s ↦ .ok (s, cs)) := by
  unfold State.repeatLast
  rw [takeOperand_named]
  cases state.takeOperand <;> rfl

theorem counted_named (names : List String) (state : State) (cs : List Char) :
    counted (state.named names) cs = namedResult names (counted state cs) := by
  unfold counted
  rw [takeOperand_named]
  cases state.takeOperand with
  | error e => rfl
  | ok operand =>
    change decimal state.flags (skipBlanks state.flags cs) >>= _ =
      namedResult names (decimal state.flags (skipBlanks state.flags cs) >>= _)
    refine namedResult_bind _ fun r ↦ ?_
    obtain ⟨low, rest⟩ := r
    cases low with
    | none => rfl
    | some low => exact namedResult_bind _ fun r ↦ repeatLast_named names state _ _ _ _

theorem retold_groupName (names : List String) (state : State) (cs : List Char) :
    Retold names (groupName state cs) (groupName (state.named names) cs) := by
  unfold groupName
  cases splitAtChar? '>' cs with
  | none => exact .same
  | some found =>
    obtain ⟨name, rest⟩ := found
    cases name with
    | nil => exact .same
    | cons first others =>
      dsimp only
      by_cases hv : (!(isNameChar true first && others.all (isNameChar false))) = true
      · simp only [if_pos hv]
        exact .same
      simp only [if_neg hv]
      by_cases ht : (state.named names).names.contains (String.ofList (first :: others)) = true
      · rw [if_pos ht]
        exact .refused _
      · have hfree : ¬ state.names.contains (String.ofList (first :: others)) = true := by
          intro hc
          exact ht (List.contains_iff_mem.mpr
            (List.mem_append_left names (List.contains_iff_mem.mp hc)))
        rw [if_neg ht, if_neg hfree]
        exact .same

theorem flaggedGroup_named (names : List String) (state : State) (cs : List Char) :
    flaggedGroup (state.named names) cs = namedResult names (flaggedGroup state cs) := by
  refine namedResult_bind _ fun r ↦ ?_
  obtain ⟨⟨flags, seen⟩, rest⟩ := r
  cases rest with
  | nil => rfl
  | cons c rest =>
    dsimp only
    split_ifs <;> rfl

theorem retold_markedGroup (names : List String) (state : State) (cs : List Char) :
    Retold names (markedGroup state cs) (markedGroup (state.named names) cs) := by
  cases cs with
  | nil => exact .refused _
  | cons c rest =>
    simp only [markedGroup, flaggedGroup_named]
    split_ifs
    · exact .refused _
    · exact .refused _
    · exact retold_groupName names state rest
    · exact retold_groupName names state rest.tail
    · exact .same

theorem retold_group (names : List String) (state : State) (cs : List Char) :
    Retold names (group state cs) (group (state.named names) cs) := by
  have hflags : (state.named names).flags = state.flags := rfl
  unfold group
  rw [hflags]
  split
  · exact retold_markedGroup names state _
  · exact .same

theorem closeGroup_named (names : List String) (state : State) :
    (state.named names).closeGroup = state.closeGroup.map (·.named names) := by
  obtain ⟨frame, flags, outer, taken⟩ := state
  cases outer <;> rfl

theorem retold_step (names : List String) (state : State) (c : Char) (cs : List Char) :
    Retold names (step state c cs) (step (state.named names) c cs) := by
  have heq {y : Except SyntaxError (State × List Char)}
      (h : y = namedResult names (step state c cs)) : Retold names (step state c cs) y :=
    h ▸ .same
  unfold step at heq ⊢
  split at heq
  case h_1 => exact retold_group names state cs
  case h_2 =>
    refine heq ?_
    rw [closeGroup_named]
    cases state.closeGroup <;> rfl
  case h_4 => exact heq (namedResult_bind _ fun _ ↦ rfl)
  case h_5 | h_6 | h_7 => exact heq (repeatLast_named names state _ _ _ _)
  case h_8 => exact heq (counted_named names state cs)
  case h_9 =>
    refine heq (namedResult_bind _ fun r ↦ ?_)
    obtain ⟨atom, rest⟩ := r
    cases atom <;> rfl
  case h_10 => exact heq (namedResult_bind _ fun _ ↦ rfl)
  all_goals exact heq rfl

/-- Whether blanks are skipped somewhere on the way through a text, as the flag `x` asks for. -/
def ignoresBlanks (state : State) (cs : List Char) : Bool :=
  state.flags.ignoreBlanks ||
    match skipBlanks state.flags cs with
    | [] => false
    | c :: rest =>
      match step state c rest with
      | .error _ => false
      | .ok (state, rest) =>
        if rest.length < cs.length then ignoresBlanks state rest else false
termination_by cs.length

theorem flags_of_ignoresBlanks (h : ignoresBlanks state cs = false) :
    state.flags.ignoreBlanks = false := by
  rw [ignoresBlanks, Bool.or_eq_false_iff] at h
  exact h.1

theorem ignoresBlanks_of_step {c : Char} {rest rest' : List Char} {state' : State}
    (h : ignoresBlanks state cs = false) (hskip : skipBlanks state.flags cs = c :: rest)
    (hstep : step state c rest = .ok (state', rest')) (hlt : rest'.length < cs.length) :
    ignoresBlanks state' rest' = false := by
  rw [ignoresBlanks, Bool.or_eq_false_iff, hskip] at h
  simpa [hstep, hlt] using h.2

/-- A state of the reader of a whole text, inside of further groups and after further names. -/
def State.inside (state : State) (names : List String) (groups : List (Frame × Flags)) : State :=
  (state.named names).under groups

/-- The reader goes the same way through a text that ends in a group, or stops at a name. -/
theorem loop_inside (hv : ignoresBlanks state cs = false) (h : loop state cs = .ok s)
    (names : List String) (groups : List (Frame × Flags)) (tail : List Char) :
    (∃ e, loop (state.inside names groups) (cs ++ ')' :: tail) = .error e) ∨
      loop (state.inside names groups) (cs ++ ')' :: tail) =
        loop (s.inside names groups) (')' :: tail) := by
  fun_induction loop state cs with
  | case1 state cs hskip =>
    cases h
    rw [skipBlanks_of_false (flags_of_ignoresBlanks hv)] at hskip
    exact .inr (by rw [hskip, List.nil_append])
  | case2 => cases h
  | case3 state cs c rest hskip state' rest' hstep hlt ih =>
    have hb := flags_of_ignoresBlanks hv
    have hrest := ih (ignoresBlanks_of_step hv hskip hstep hlt) h
    have hcs : cs = c :: rest := (skipBlanks_of_false hb cs).symm.trans hskip
    have hskip' : skipBlanks (state.named names).flags (cs ++ ')' :: tail) =
        c :: (rest ++ ')' :: tail) := by
      change skipBlanks state.flags _ = _
      rw [skipBlanks_of_false hb, hcs, List.cons_append]
    have hne : step state c rest ≠ .error .unopenedGroup := by
      rw [hstep]
      intro heq
      cases heq
    -- A bracket that the text itself closes is one that it has opened.
    have houter : c = ')' → state.outer ≠ [] := ne_nil_of_step_ne hne
    have hround : loop (state.inside names groups) (cs ++ ')' :: tail) = _ :=
      loop_under hskip' houter
    have hkept : step state c (rest ++ ')' :: tail) = .ok (state', rest' ++ ')' :: tail) :=
      (kept_step hb c rest).eq_ok hstep
    have hretold := retold_step names state c (rest ++ ')' :: tail)
    rw [hkept] at hretold
    rw [hround]
    generalize step (state.named names) c (rest ++ ')' :: tail) = y at hretold
    cases hretold with
    | refused e => exact .inl ⟨e, rfl⟩
    | same =>
      simp only [namedResult, Except.map]
      rw [if_pos (by simpa using hlt)]
      exact hrest
  | case4 => cases h

theorem loop_group (hf : state.flags = {}) (hv : ignoresBlanks {} cs = false)
    (h : loop {} cs = .ok s) (ho : s.outer = []) (tail : List Char) :
    (∃ e, loop state ("(?:".toList ++ (cs ++ ')' :: tail)) = .error e) ∨
      loop state ("(?:".toList ++ (cs ++ ')' :: tail)) =
        loop { state.add s.frame.close.deepen with names := s.names ++ state.names } tail := by
  obtain ⟨frame, flags, outer, names⟩ := state
  cases hf
  have hopen : loop ⟨frame, {}, outer, names⟩ ("(?:".toList ++ (cs ++ ')' :: tail)) =
      loop (({} : State).inside names ((frame, {}) :: outer)) (cs ++ ')' :: tail) :=
    loop_step rfl rfl (by simp; omega)
  obtain ⟨sframe, sflags, souter, snames⟩ := s
  cases ho
  rw [hopen]
  refine (loop_inside hv h names ((frame, {}) :: outer) tail).imp_right fun hi ↦ ?_
  rw [hi]
  have hclosing : skipBlanks sflags (')' :: tail) = ')' :: tail :=
    skipBlanks_cons (by decide) (by decide) tail
  exact loop_step hclosing rfl (Nat.lt_succ_self _)

end Parser

open TopDown.Regex.Parser

def IgnoresBlanks (source : String) : Prop :=
  Parser.ignoresBlanks {} source.toList = true

instance : DecidablePred IgnoresBlanks := fun source ↦
  inferInstanceAs (Decidable (Parser.ignoresBlanks {} source.toList = true))

def alternatives : Regex → List Regex → Regex
  | r, [] => r
  | r, next :: others => .alt r (alternatives next others)

theorem toList_alternation_singleton (pattern : String) :
    (Tokenizer.alternation [pattern]).toList = "(?:".toList ++ (pattern.toList ++ [')']) := by
  simp [Tokenizer.alternation]

theorem toList_alternation_cons (pattern next : String) (patterns : List String) :
    (Tokenizer.alternation (pattern :: next :: patterns)).toList =
      "(?:".toList ++ (pattern.toList ++ ')' :: '|' ::
        (Tokenizer.alternation (next :: patterns)).toList) := by
  simp [Tokenizer.alternation, String.intercalate_cons_cons]

theorem exists_of_loop_group {state s : State} {pattern : String} {tail : List Char}
    (hflags : state.flags = {}) (hv : ¬ IgnoresBlanks pattern) (hp : ∃ r, parse pattern = .ok r)
    (hs : loop state ("(?:".toList ++ (pattern.toList ++ ')' :: tail)) = .ok s) :
    ∃ (part : Nested Regex) (names : List String), parse pattern = .ok part.value ∧
      loop { state.add part with names } tail = .ok s := by
  obtain ⟨r, hr⟩ := hp
  obtain ⟨_, he, -, rfl⟩ := parse_eq_ok_iff.mp hr
  obtain ⟨a, ha, hout, rfl⟩ := read_eq_ok_iff.mp he
  obtain ⟨e, he⟩ | hrest := loop_group hflags (Bool.eq_false_of_not_eq_true hv) ha hout tail
  · cases he.symm.trans hs
  · exact ⟨a.frame.close.deepen, _, hr, hrest.symm.trans hs⟩

theorem exists_alternatives_of_loop {state s : State} {pattern : String} {patterns : List String}
    (hv : ∀ p ∈ pattern :: patterns, ¬ IgnoresBlanks p)
    (hp : ∀ p ∈ pattern :: patterns, ∃ r, parse p = .ok r)
    (hflags : state.flags = {}) (hpieces : state.frame.pieces = [])
    (hs : loop state (Tokenizer.alternation (pattern :: patterns)).toList = .ok s) :
    ∃ r rs, List.Forall₂ (fun p r ↦ parse p = .ok r) (pattern :: patterns) (r :: rs) ∧
      s.frame.close.value = state.frame.branches.foldl (fun r branch ↦ .alt branch.value r)
        (alternatives r rs) := by
  induction patterns generalizing pattern state with
  | nil =>
    rw [toList_alternation_singleton] at hs
    obtain ⟨part, names, hr, hs⟩ := exists_of_loop_group hflags
      (hv pattern List.mem_cons_self) (hp pattern List.mem_cons_self) hs
    cases (loop_nil _).symm.trans hs
    obtain ⟨⟨branches, pieces⟩, flags, outer, names⟩ := state
    cases hpieces
    exact ⟨_, [], .cons hr .nil, rfl⟩
  | cons next patterns ih =>
    obtain ⟨hvp, hvs⟩ := List.forall_mem_cons.mp hv
    obtain ⟨hpp, hps⟩ := List.forall_mem_cons.mp hp
    rw [toList_alternation_cons] at hs
    obtain ⟨part, names, hr, hs⟩ := exists_of_loop_group hflags hvp hpp hs
    obtain ⟨⟨branches, pieces⟩, flags, outer, names'⟩ := state
    cases hpieces
    cases hflags
    have hbar : loop ⟨⟨branches, [.part part]⟩, {}, outer, names⟩
        ('|' :: (Tokenizer.alternation (next :: patterns)).toList) =
        loop ⟨⟨part :: branches, []⟩, {}, outer, names⟩
          (Tokenizer.alternation (next :: patterns)).toList :=
      loop_step (skipBlanks_of_false rfl _) rfl (Nat.lt_succ_self _)
    obtain ⟨r, rs, hrs, hclose⟩ := ih hvs hps rfl rfl (hbar.symm.trans hs)
    exact ⟨_, r :: rs, .cons hr hrs, hclose⟩

end Regex

namespace Tokenizer

open TopDown.Regex

variable {patterns : List String} {t : Tokenizer}

theorem compile_eq_ok_iff {pattern : String} {r : Regex} :
    compile pattern = .ok r ↔ parse pattern = .ok r := by
  unfold compile
  cases parse pattern with
  | error e => exact ⟨nofun, nofun⟩
  | ok a => simp only [Except.ok.injEq]

theorem ofPatterns_eq_ok_iff : ofPatterns patterns = .ok t ↔
    patterns ≠ [] ∧ (∀ p ∈ patterns, ∃ r, parse p = .ok r) ∧ t.patterns = patterns ∧
      parse (alternation patterns) = .ok t.regex := by
  have hsound (p : String) : (compile p).map (fun _ ↦ ()) = .ok () ↔ ∃ r, parse p = .ok r := by
    simp only [← compile_eq_ok_iff]
    cases compile p with
    | error e => exact ⟨nofun, nofun⟩
    | ok r => exact ⟨fun _ ↦ ⟨r, rfl⟩, fun _ ↦ rfl⟩
  unfold ofPatterns
  split_ifs with he
  · simp [List.isEmpty_iff.mp he]
  · simp only [except_bind_eq_ok, compile_eq_ok_iff]
    rw [List.isEmpty_iff] at he
    constructor
    · intro ⟨_, hp, r, hr, ht⟩
      cases ht
      exact ⟨he, fun p hm ↦ (hsound p).mp (forM_eq_ok_iff.mp hp p hm), rfl, hr⟩
    · intro ⟨_, hp, hpatterns, hr⟩
      subst hpatterns
      exact ⟨(), forM_eq_ok_iff.mpr fun p hm ↦ (hsound p).mpr (hp p hm), t.regex, hr, rfl⟩

theorem exists_alternatives_of_ofPatterns (ht : ofPatterns patterns = .ok t)
    (hv : ∀ p ∈ patterns, ¬ IgnoresBlanks p) :
    ∃ r rs, List.Forall₂ (fun p r ↦ parse p = .ok r) patterns (r :: rs) ∧
      t.regex = alternatives r rs := by
  obtain ⟨hne, hp, -, ht⟩ := ofPatterns_eq_ok_iff.mp ht
  obtain ⟨_, he, -, hvalue⟩ := parse_eq_ok_iff.mp ht
  obtain ⟨s, hs, -, rfl⟩ := read_eq_ok_iff.mp he
  cases patterns with
  | nil => exact absurd rfl hne
  | cons pattern patterns =>
    obtain ⟨r, rs, hrs, hr⟩ := exists_alternatives_of_loop hv hp rfl rfl hs
    exact ⟨r, rs, hrs, hvalue.symm.trans hr⟩

end Tokenizer

end TopDown
