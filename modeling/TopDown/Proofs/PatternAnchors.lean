import TopDown.Proofs.ClosingLoop
import TopDown.Proofs.MatchRelation
import TopDown.Proofs.Rebuild

namespace TopDown

namespace Regex

namespace Parser

variable {state : State} {groups : List (Frame × Flags)}

def anchorFrame : Frame :=
  ({} : Frame).add ⟨({} : Flags).look .textStart, 0⟩

theorem loop_anchored (source : String) :
    loop {} (Pattern.anchored source).toList =
      loop (State.under {} [(anchorFrame, {})]) (source.toList ++ closing) := by
  have hl : (Pattern.anchored source).toList =
      '^' :: '(' :: '?' :: ':' :: (source.toList ++ closing) := by
    simp [Pattern.anchored, closing]
  have hlt : (source.toList ++ closing).length <
      ('(' :: '?' :: ':' :: (source.toList ++ closing)).length := by
    simp only [List.length_cons]
    omega
  rw [hl, loop_step rfl rfl (Nat.lt_succ_self _), loop_step rfl rfl hlt]
  rfl

end Parser

open TopDown.Regex.Parser

variable {source : String}

/-- The group around the expression and the row of the group and the two anchors are two levels. -/
def anchor (r : Nested Regex) : Nested Regex where
  value := .seq (({} : Flags).look .textStart) (.seq r.value (({} : Flags).look .textEnd))
  depth := r.depth + 2

theorem loop_under_closing {state : State} (h : state.outer = []) :
    ∃ s, loop (state.under [(anchorFrame, {})]) closing = .ok s ∧ s.outer = [] ∧
      s.frame.close = anchor state.frame.close := by
  obtain ⟨frame, flags, outer, names⟩ := state
  subst h
  rw [loop_closing]
  refine ⟨_, loop_dollar _, rfl, ?_⟩
  have hdepth : rowDepth [0, frame.close.depth + 1, 0] = frame.close.depth + 2 := by
    simp [rowDepth]
  exact congrArg (Nested.mk _) hdepth

theorem read_eq_bind (source : String) :
    read source = loop {} source.toList >>= fun s ↦
      if s.outer.isEmpty then .ok s.frame.close else .error .unclosedGroup :=
  rfl

theorem read_eq_ok_iff {r : Nested Regex} :
    read source = .ok r ↔
      ∃ s, loop {} source.toList = .ok s ∧ s.outer = [] ∧ s.frame.close = r := by
  rw [read_eq_bind, except_bind_eq_ok]
  refine exists_congr fun s ↦ and_congr_right fun _ ↦ ?_
  split_ifs with ho
  · rw [List.isEmpty_iff] at ho
    rw [Except.ok.injEq, and_iff_right ho]
  · rw [List.isEmpty_iff] at ho
    exact ⟨nofun, fun h ↦ absurd h.1 ho⟩

theorem parse_eq_bind (source : String) :
    parse source = read source >>= fun r ↦
      if nestLimit < r.depth then .error .nestedTooDeep else .ok r.value :=
  rfl

theorem parse_eq_ok_iff {r : Regex} :
    parse source = .ok r ↔ ∃ e, read source = .ok e ∧ e.depth ≤ nestLimit ∧ e.value = r := by
  rw [parse_eq_bind, except_bind_eq_ok]
  refine exists_congr fun e ↦ and_congr_right fun _ ↦ ?_
  split_ifs with hd
  · exact ⟨nofun, fun h ↦ absurd h.1 (Nat.not_le.mpr hd)⟩
  · rw [Except.ok.injEq, and_iff_right (Nat.not_lt.mp hd)]

theorem parse_of_read_error {e : SyntaxError} (h : read source = .error e) :
    parse source = .error e := by
  rw [parse_eq_bind, h]
  rfl

/-- An expression with no more than `limit` levels of brackets, rows and repetitions. -/
def NestedWithin (limit : Nat) (source : String) : Prop :=
  ∃ e, read source = .ok e ∧ e.depth ≤ limit

/-- The text ends in a comment without a line break, as there are under the flag `x`. -/
def EndsInComment (source : String) : Prop :=
  Parser.EndsInComment {} source.toList

/-- Where the text by itself closes no group that it has not opened, it is anchored as a whole. -/
theorem read_anchored_eq_ok_iff {r' : Nested Regex} (h : read source ≠ .error .unopenedGroup) :
    read (Pattern.anchored source) = .ok r' ↔
      ∃ r, read source = .ok r ∧ ¬ EndsInComment source ∧ anchor r = r' := by
  have hu : loop {} source.toList ≠ .error .unopenedGroup := by
    intro hu
    rw [read_eq_bind, hu] at h
    exact h rfl
  have ho := outcome_loop hu
  simp only [read_eq_ok_iff, loop_anchored]
  generalize loop {} source.toList = x at ho
  cases ho with
  | lost s hl hy =>
    constructor
    · rintro ⟨_, hs, ho, -⟩
      cases (hy _).symm.trans hs
      cases (List.append_eq_nil_iff.mp ho).2
    · rintro ⟨r, -, hne, -⟩
      exact absurd hl hne
  | closed s hl hy =>
    constructor
    · rintro ⟨s', hs', ho, rfl⟩
      have hs := (hy _).symm.trans hs'
      by_cases hout : s.outer = []
      · obtain ⟨_, he, -, hr⟩ := loop_under_closing hout
        cases he.symm.trans hs
        exact ⟨_, ⟨s, rfl, hout, rfl⟩, hl, hr.symm⟩
      · cases List.suffix_nil.mp (ho ▸ loop_under_closing_of_ne hout hs)
    · rintro ⟨_, ⟨_, ⟨⟩, hout, rfl⟩, -, rfl⟩
      obtain ⟨s', hs, ho, hr⟩ := loop_under_closing hout
      exact ⟨s', (hy _).trans hs, ho, hr⟩
  | failed e hy =>
    constructor
    · rintro ⟨s', hs', ho, -⟩
      cases List.suffix_nil.mp (ho ▸ hy _ _ hs')
    · rintro ⟨_, ⟨_, ⟨⟩, -⟩, -⟩

/-- What a text needs to be an expression between anchors, too. -/
structure Anchorable (source : String) : Prop where
  parses : ∃ r, parse source = .ok r
  shallow : NestedWithin (nestLimit - 2) source
  closed : ¬ EndsInComment source

theorem parse_anchored_eq_ok_iff {r' : Regex} (h : parse source ≠ .error .unopenedGroup) :
    parse (Pattern.anchored source) = .ok r' ↔
      ∃ r, parse source = .ok r ∧ Anchorable source ∧ (anchor ⟨r, 0⟩).value = r' := by
  have hlimit : 2 ≤ nestLimit := by decide
  simp only [parse_eq_ok_iff, read_anchored_eq_ok_iff (mt parse_of_read_error h)]
  constructor
  · rintro ⟨_, ⟨e, he, hc, rfl⟩, hd, rfl⟩
    have hle : e.depth ≤ nestLimit - 2 := Nat.le_sub_of_add_le hd
    have hle' : e.depth ≤ nestLimit := hle.trans (Nat.sub_le _ _)
    exact ⟨e.value, ⟨e, he, hle', rfl⟩, ⟨⟨_, parse_eq_ok_iff.mpr ⟨e, he, hle', rfl⟩⟩, ⟨e, he, hle⟩,
      hc⟩, rfl⟩
  · rintro ⟨_, ⟨e, he, -, rfl⟩, ⟨-, ⟨e', he', hd⟩, hc⟩, rfl⟩
    cases he.symm.trans he'
    exact ⟨anchor e, ⟨e, he, hc, rfl⟩, Nat.add_le_of_le_sub hlimit hd, rfl⟩

def nestedGroups : Nat → List Char
  | 0 => []
  | n + 1 => '(' :: (nestedGroups n ++ [')'])

theorem loop_nestedGroups (n : Nat) {state : State} (hf : state.flags = {}) (rest : List Char) :
    loop state (nestedGroups (n + 1) ++ rest) = loop (state.add ⟨.empty, n + 1⟩) rest := by
  obtain ⟨frame, flags, outer, names⟩ := state
  cases hf
  induction n generalizing frame outer rest with
  | zero =>
    have hopen : loop ⟨frame, {}, outer, names⟩ ('(' :: ')' :: rest) =
        loop ⟨{}, {}, (frame, {}) :: outer, names⟩ (')' :: rest) :=
      loop_step rfl rfl (Nat.lt_succ_self _)
    exact hopen.trans (loop_step rfl rfl (Nat.lt_succ_self _))
  | succ n ih =>
    have htext : nestedGroups (n + 2) ++ rest = '(' :: (nestedGroups (n + 1) ++ ')' :: rest) := by
      simp [nestedGroups]
    have hopen : loop ⟨frame, {}, outer, names⟩ (nestedGroups (n + 2) ++ rest) =
        loop ⟨{}, {}, (frame, {}) :: outer, names⟩ (nestedGroups (n + 1) ++ ')' :: rest) := by
      rw [htext]
      exact loop_step rfl rfl (Nat.lt_succ_self _)
    rw [hopen, ih]
    exact loop_step rfl rfl (Nat.lt_succ_self _)

theorem read_nestedGroups (n : Nat) :
    read (String.ofList (nestedGroups (n + 1))) = .ok ⟨.empty, n + 1⟩ := by
  have hloop : loop {} (nestedGroups (n + 1) ++ []) = _ := loop_nestedGroups n rfl []
  rw [List.append_nil, loop_nil] at hloop
  rw [read_eq_bind, String.toList_ofList, hloop]
  rfl

theorem read_anchored_nestedGroups (n : Nat) :
    read (Pattern.anchored (String.ofList (nestedGroups (n + 1)))) =
      .ok (anchor ⟨.empty, n + 1⟩) := by
  have houter : (State.add {} ⟨.empty, n + 1⟩).outer = [] := rfl
  refine read_eq_ok_iff.mpr ?_
  rw [loop_anchored, String.toList_ofList, loop_nestedGroups n rfl]
  exact loop_under_closing houter

def AcceptsWhole (source : String) (accepts : String → Bool) : Prop :=
  ∃ r, parse source = .ok r ∧ ∀ token, accepts token = true ↔ r.MatchesWhole token.toList.toArray

end Regex

namespace Pattern

open TopDown.Regex

variable {source : String} {p : Pattern}

theorem exists_ofSource_iff (h : parse source ≠ .error .unopenedGroup) :
    (∃ p, ofSource source = .ok p) ↔ Anchorable source := by
  constructor
  · rintro ⟨p, hp⟩
    obtain ⟨r, -, ha, -⟩ := (parse_anchored_eq_ok_iff h).mp (ofSource_eq_ok_iff.mp hp).1
    exact ha
  · intro ha
    obtain ⟨r, hr⟩ := ha.parses
    exact ⟨⟨source, _⟩, ofSource_eq_ok_iff.mpr ⟨(parse_anchored_eq_ok_iff h).mpr ⟨r, hr, ha, rfl⟩,
      rfl⟩⟩

theorem acceptsWhole (h : parse source ≠ .error .unopenedGroup)
    (hp : ofSource source = .ok p) : AcceptsWhole source p.accepts := by
  obtain ⟨r, hr, -, hregex⟩ := (parse_anchored_eq_ok_iff h).mp (ofSource_eq_ok_iff.mp hp).1
  refine ⟨r, hr, fun token ↦ ?_⟩
  rw [accepts, ← hregex]
  exact isMatch_anchored_iff

end Pattern

namespace GrammarBuilder

variable {α β : Type} {b : GrammarBuilder} {source : String}

theorem ofSource_of_mem_patterns {g : Grammar} (hb : b.build = .ok g) (h : source ∈ b.patterns) :
    ∃ p, Pattern.ofSource source = .ok p := by
  obtain ⟨_, _, _, -, hp, -⟩ := build_eq_ok_iff.mp hb
  have hmap := forM_eq_ok_iff.mp hp source h
  cases hc : compilePattern source with
  | error e =>
    rw [hc] at hmap
    cases hmap
  | ok p => exact ⟨p, compilePattern_eq_ok_iff.mp hc⟩

theorem pattern_of_mem_terminals {g : Grammar} {t : Terminal} (hb : b.build = .ok g)
    (h : t.text ∈ b.patterns) (ht : t ∈ g.terminals.toList) :
    ∃ p, Pattern.ofSource t.text = .ok p ∧ t = .pattern p := by
  have hc := classify_text hb ht
  unfold classify at hc
  rw [if_pos (by rw [List.contains_iff_mem.mpr h, Bool.true_or])] at hc
  cases hp : compilePattern t.text with
  | error e =>
    rw [hp] at hc
    cases hc
  | ok p =>
    rw [hp] at hc
    exact ⟨p, compilePattern_eq_ok_iff.mp hp, (Except.ok.inj hc).symm⟩

def BlamesInvalid (x : Except GrammarError α) : Prop :=
  ∀ source reason, x = .error (.invalidPattern source reason) →
    Pattern.ofSource source = .error reason

theorem BlamesInvalid.bind {x : Except GrammarError α} {f : α → Except GrammarError β}
    (hx : BlamesInvalid x) (hf : ∀ a, BlamesInvalid (f a)) : BlamesInvalid (x >>= f) := by
  intro source reason h
  cases x with
  | error e => exact hx source reason (congrArg _ (Except.error.inj h))
  | ok a => exact hf a source reason h

theorem blamesInvalid_ok (a : α) : BlamesInvalid (.ok a) :=
  nofun

theorem blamesInvalid_compilePattern (text : String) : BlamesInvalid (compilePattern text) := by
  intro source reason h
  unfold compilePattern at h
  cases hp : Pattern.ofSource text with
  | ok p =>
    rw [hp] at h
    cases h
  | error e =>
    rw [hp] at h
    cases h
    exact hp

theorem BlamesInvalid.map {x : Except GrammarError α} (h : BlamesInvalid x) (f : α → β) :
    BlamesInvalid (x.map f) := by
  cases x with
  | error e => exact fun source reason he ↦ h source reason (congrArg _ (Except.error.inj he))
  | ok a => exact blamesInvalid_ok (f a)

theorem blamesInvalid_classify (text : String) : BlamesInvalid (b.classify text) := by
  unfold classify
  split_ifs
  · exact (blamesInvalid_compilePattern text).map Terminal.pattern
  · exact blamesInvalid_ok _

theorem blamesInvalid_forM {f : α → Except GrammarError Unit} (h : ∀ a, BlamesInvalid (f a))
    (as : List α) : BlamesInvalid (as.forM f) := by
  induction as with
  | nil => exact blamesInvalid_ok ()
  | cons a as ih => exact (h a).bind fun _ ↦ ih

theorem blamesInvalid_mapM {f : α → Except GrammarError β} (h : ∀ a, BlamesInvalid (f a))
    (as : List α) : BlamesInvalid (as.mapM f) := by
  induction as with
  | nil => exact blamesInvalid_ok []
  | cons a as ih =>
    rw [List.mapM_cons]
    exact (h a).bind fun _ ↦ ih.bind fun _ ↦ blamesInvalid_ok _

theorem blamesInvalid_entryPoint? (b : GrammarBuilder) : BlamesInvalid b.entryPoint? := by
  unfold entryPoint?
  cases b.entryPoint with
  | none => nofun
  | some name =>
    cases b.rules.find? (·.alternatives.isEmpty) with
    | some rule => nofun
    | none =>
      cases hi : b.rules.findIdx? (·.name == name) with
      | none =>
        simp only [hi]
        nofun
      | some i =>
        simp only [hi]
        cases b.patterns.find? b.hasRule with
        | some p => nofun
        | none => cases b.patterns.find? b.literals.contains <;> nofun

theorem blamesInvalid_build (b : GrammarBuilder) : BlamesInvalid b.build := by
  rw [build_eq_bind_validate]
  refine BlamesInvalid.bind ?_ fun g ↦ BlamesInvalid.bind ?_ fun _ ↦ blamesInvalid_ok _
  · refine (blamesInvalid_entryPoint? b).bind fun _ ↦ BlamesInvalid.bind ?_ fun _ ↦
      (blamesInvalid_mapM blamesInvalid_classify _).bind fun _ ↦ blamesInvalid_ok _
    exact blamesInvalid_forM (fun text ↦ (blamesInvalid_compilePattern text).map _) _
  · unfold Grammar.validate
    dsimp only
    split_ifs
    · nofun
    · nofun

end GrammarBuilder

open TopDown.Regex

/--
A text that closes no group that it has not opened is a pattern if it is an expression, leaves two
levels of nesting for the anchors and the group around it, and does not end in a comment, and the
pattern matches whole tokens. This goes for declared patterns, too.
-/
theorem pattern_matches_whole {source : String} (h : parse source ≠ .error .unopenedGroup) :
    ((∃ p, Pattern.ofSource source = .ok p) ↔ Anchorable source) ∧
    (∀ p, Pattern.ofSource source = .ok p → AcceptsWhole source p.accepts) ∧
    ∀ b : GrammarBuilder, source ∈ b.patterns →
      (∀ g, b.build = .ok g → Anchorable source ∧
        ∀ t ∈ g.terminals.toList, t.text = source → AcceptsWhole source t.accepts) ∧
      ∀ reason, b.build = .error (.invalidPattern source reason) → ¬ Anchorable source := by
  refine ⟨Pattern.exists_ofSource_iff h, fun p ↦ Pattern.acceptsWhole h, fun b hs ↦
    ⟨fun g hb ↦ ?_, fun reason hb ↦ ?_⟩⟩
  · refine ⟨(Pattern.exists_ofSource_iff h).mp (GrammarBuilder.ofSource_of_mem_patterns hb hs),
      fun t ht htext ↦ ?_⟩
    subst htext
    obtain ⟨p, hp, rfl⟩ := GrammarBuilder.pattern_of_mem_terminals hb hs ht
    exact Pattern.acceptsWhole h hp
  · rw [← Pattern.exists_ofSource_iff h, GrammarBuilder.blamesInvalid_build b source reason hb]
    exact nofun

def GrammarBuilder.branches : GrammarBuilder where
  rules := [⟨"S", [["a|bc"]]⟩]
  entryPoint := some "S"
  patterns := ["a|bc"]

def Pattern.branches : Pattern where
  source := "a|bc"
  regex := .seq (.look .textStart (.property .word)) (.seq
    (.alt (.set (.range 'a' 'a')) (.seq (.set (.range 'b' 'b')) (.set (.range 'c' 'c'))))
    (.look .textEnd (.property .word)))

def Grammar.branches : Grammar where
  rules := #[⟨"S", [[.terminal 0]]⟩]
  terminals := #[.pattern .branches]
  entryPoint := 0
  endMarker := defaultEndMarker
  allowLeftRecursion := false
  warnings := []

theorem pattern_matches_whole_branches :
    parse "a|bc" ≠ .error .unopenedGroup ∧ Anchorable "a|bc" ∧
      Pattern.ofSource "a|bc" = .ok .branches ∧
      AcceptsWhole "a|bc" Pattern.branches.accepts ∧ "a|bc" ∈ GrammarBuilder.branches.patterns ∧
      GrammarBuilder.branches.build = .ok .branches ∧
      ∀ t ∈ Grammar.branches.terminals.toList, t.text = "a|bc" → AcceptsWhole "a|bc" t.accepts := by
  have hparse : (parse "a|bc").isOk = true := by cbv
  have h : parse "a|bc" ≠ .error .unopenedGroup := by
    intro he
    rw [he] at hparse
    cases hparse
  have hp : Pattern.ofSource "a|bc" = .ok .branches := by cbv
  have hmem : "a|bc" ∈ GrammarBuilder.branches.patterns := by decide
  have hb : GrammarBuilder.branches.build = .ok .branches := by cbv
  obtain ⟨hiff, haccepts, hbuild⟩ := pattern_matches_whole h
  exact ⟨h, hiff.mp ⟨_, hp⟩, hp, haccepts _ hp, hmem, hb, ((hbuild _ hmem).1 _ hb).2⟩

/--
By itself, the first text closes a group that it has not opened, but the brackets around it open and
close one each. The second one is an expression, but its comment goes on up to the end. The third
one is an expression that is as deep as it can be but for one level, and the anchors need two.
-/
theorem pattern_unlike_source :
    (parse "a)|(?:b" = .error .unopenedGroup ∧
      ∃ p, Pattern.ofSource "a)|(?:b" = .ok p ∧ p.accepts "ax" = true) ∧
    ((∃ r, parse "(?x)a #b" = .ok r) ∧ Pattern.ofSource "(?x)a #b" = .error .unclosedGroup) ∧
    (∃ r, parse (String.ofList (nestedGroups 249)) = .ok r) ∧
      Pattern.ofSource (String.ofList (nestedGroups 249)) = .error .nestedTooDeep := by
  have hp : (Pattern.ofSource "a)|(?:b").toOption.any (·.accepts "ax") = true := by cbv
  have hr : parse "(?x)a #b" = .ok (.set (.range 'a' 'a')) := by cbv
  have hdeep : parse (Pattern.anchored (String.ofList (nestedGroups 249))) =
      .error .nestedTooDeep := by
    rw [parse_eq_bind, read_anchored_nestedGroups 248]
    rfl
  refine ⟨⟨by cbv, ?_⟩, ⟨⟨_, hr⟩, by cbv⟩,
    ⟨.empty, parse_eq_ok_iff.mpr ⟨_, read_nestedGroups 248, by decide, rfl⟩⟩, ?_⟩
  · cases hs : Pattern.ofSource "a)|(?:b" with
    | error e =>
      rw [hs] at hp
      cases hp
    | ok p =>
      rw [hs] at hp
      exact ⟨p, rfl, hp⟩
  · rw [Pattern.ofSource, hdeep]
    rfl

end TopDown
