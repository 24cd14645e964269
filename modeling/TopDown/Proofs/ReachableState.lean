import TopDown.Proofs.BuiltGrammar
import TopDown.Proofs.Derivation
import TopDown.Proofs.ParserLoop

namespace TopDown

open TopDown.Symbol

variable {g : Grammar} {s : TokenStream} {start : Nat}

def Grammar.AcceptsPrefix (g : Grammar) (s : TokenStream) (w : List Nat) : Prop :=
  ∀ i id, w[i]? = some id → g.AcceptsAt s i id

theorem Grammar.acceptsPrefix_nil : g.AcceptsPrefix s [] := by
  intro i id h
  simp at h

theorem Grammar.acceptsPrefix_concat {w : List Nat} {id : Nat} :
    g.AcceptsPrefix s (w ++ [id]) ↔ g.AcceptsPrefix s w ∧ g.AcceptsAt s w.length id := by
  constructor
  · intro h
    refine ⟨fun i a ha ↦ h i a ?_, h w.length id List.getElem?_concat_length⟩
    rw [List.getElem?_append_left (List.getElem?_eq_some_iff.mp ha).1]
    exact ha
  · rintro ⟨hw, hid⟩ i a ha
    rcases Nat.lt_trichotomy i w.length with hi | rfl | hi
    · exact hw i a (by rwa [List.getElem?_append_left hi] at ha)
    · rw [List.getElem?_concat_length, Option.some.injEq] at ha
      exact ha ▸ hid
    · rw [List.getElem?_eq_none (by rw [List.length_append, List.length_singleton]; omega)] at ha
      cases ha

theorem Grammar.AcceptsAt.lt_size {i id : Nat} (h : g.AcceptsAt s i id) : i < s.size := by
  obtain ⟨token, ht, -⟩ := h
  unfold TokenStream.get? at ht
  unfold TokenStream.size
  split at ht
  · omega
  · split at ht
    · omega
    · cases ht

theorem Grammar.AcceptsPrefix.length_le {w : List Nat} (h : g.AcceptsPrefix s w) :
    w.length ≤ s.size := by
  cases hw : w.length with
  | zero => exact Nat.zero_le _
  | succ n => exact (h n w[n] (List.getElem?_eq_getElem _)).lt_size

theorem Replays.has (hg : g.WellFormed) {m xs ys : List Symbol} {k : List Nat}
    (h : Replays g m k xs ys) (hx : ∀ x ∈ xs, x ≠ .endMarker → g.Has x) :
    ∀ x ∈ ys, x ≠ .endMarker → g.Has x := by
  induction h with
  | nil => exact hx
  | terminal id rest ih => exact ih fun x hm ↦ hx x (List.mem_cons_of_mem _ hm)
  | nonTerminal ha rest ih =>
    refine ih fun x hm hne ↦ ?_
    rcases List.mem_append.mp hm with hm | hm
    · exact hg.has_of_mem _ _ (List.mem_of_getElem? ha) x hm
    · exact hx x (List.mem_cons_of_mem _ hm) hne

namespace Configuration

/--
The symbols dealt with lead from the start symbol to the symbols to come, and the terminals among
them have consumed the tokens before the cursor.
-/
structure Invariant (g : Grammar) (s : TokenStream) (start : Nat) (c : Configuration) : Prop where
  replays : Replays g c.matched.bottomUp c.history.bottomUp [.nonTerminal start, .endMarker]
    c.pending.values
  accepts : g.AcceptsPrefix s (terminalsOf c.matched.bottomUp)
  cursor_eq : c.cursor = (terminalsOf c.matched.bottomUp).length
  matched_ne_empty : c.mode = .backtrack → c.matched ≠ .empty

variable {c d : Configuration} {n : Nat}

theorem invariant_initial : (initial start).Invariant g s start where
  replays := .nil _
  accepts := Grammar.acceptsPrefix_nil
  cursor_eq := rfl
  matched_ne_empty := nofun

theorem matched_ne_empty_of_replays {matched : Stack Symbol} {k : List Nat} {x : Symbol}
    {xs : List Symbol} (h : Replays g matched.bottomUp k [.nonTerminal start, .endMarker] (x :: xs))
    (hx : x.isNonTerminal = false) : matched ≠ .empty := by
  rintro rfl
  obtain ⟨-, he⟩ := h.of_nil
  cases he
  cases hx

theorem Step.invariant (h : Step g s c d) (hc : c.Invariant g s start) :
    d.Invariant g s start := by
  obtain ⟨hr, ha, hcur, -⟩ := hc
  cases h with
  | expansion first =>
    refine ⟨?_, ?_, ?_, nofun⟩
    · simpa using hr.trans (.nonTerminal first (.nil _))
    · simpa using ha
    · simpa using hcur
  | consume accepted =>
    refine ⟨?_, ?_, ?_, nofun⟩
    · simpa using hr.trans (.terminal _ (.nil _))
    · simpa [Grammar.acceptsPrefix_concat, ha, ← hcur] using accepted
    · simpa using hcur
  | acceptance consumed => exact ⟨hr, ha, hcur, nofun⟩
  | mismatch refused => exact ⟨hr, ha, hcur, fun _ ↦ matched_ne_empty_of_replays hr rfl⟩
  | earlyEnd early => exact ⟨hr, ha, hcur, fun _ ↦ matched_ne_empty_of_replays hr rfl⟩
  | retreat =>
    simp only [Stack.bottomUp_push, terminalsOf_append, terminalsOf_cons_terminal, terminalsOf_nil,
      List.length_append, List.length_singleton] at hr ha hcur
    have hr := hr.concat_terminal
    exact ⟨hr, (Grammar.acceptsPrefix_concat.mp ha).1, Nat.succ.inj hcur,
      fun _ ↦ matched_ne_empty_of_replays hr rfl⟩
  | nextAlternative current other =>
    simp only [Stack.bottomUp_push, Stack.values_pushAll] at hr
    obtain ⟨alternative, rest, hi, hp, hr⟩ := hr.concat_nonTerminal
    cases current.symm.trans hi
    -- What was pending is the alternative and what stood behind the non-terminal.
    obtain rfl := List.append_cancel_left hp
    refine ⟨?_, ha, hcur, nofun⟩
    simpa using hr.trans (.nonTerminal other (.nil _))
  | reject current last => exact ⟨hr, ha, hcur, nofun⟩
  | escalate current last inner =>
    simp only [Stack.bottomUp_push, Stack.values_pushAll] at hr
    obtain ⟨alternative, rest, hi, hp, hr⟩ := hr.concat_nonTerminal
    cases current.symm.trans hi
    obtain rfl := List.append_cancel_left hp
    refine ⟨hr, ?_, ?_, fun _ ↦ inner⟩
    · simpa using ha
    · simpa using hcur

theorem Invariant.cursor_le (hc : c.Invariant g s start) : c.cursor ≤ s.size :=
  hc.cursor_eq ▸ hc.accepts.length_le

theorem exists_step_of_matching (hg : g.WellFormed) (hm : c.mode = .matching)
    (hne : c.pending ≠ .empty)
    (hid : ∀ id, c.pending.top? = some (.nonTerminal id) → g.Has (.nonTerminal id)) :
    ∃ d, Step g s c d := by
  obtain ⟨mode, cursor, matched, pending, history, transition, exhausted⟩ := c
  cases hm
  obtain rfl | ⟨rest, x, rfl⟩ := pending.eq_empty_or_push
  · exact absurd rfl hne
  cases x with
  | nonTerminal id =>
    obtain ⟨first, others, ha⟩ :=
      List.exists_cons_of_ne_nil (hg.alternatives_ne_nil id (hid id (Stack.top?_push rest _)))
    exact ⟨_, .expansion (by rw [ha]; rfl)⟩
  | terminal id =>
    by_cases ha : g.AcceptsAt s cursor id
    · exact ⟨_, .consume ha⟩
    · exact ⟨_, .mismatch ha⟩
  | endMarker =>
    by_cases he : rest = .empty ∧ s.input.size ≤ cursor
    · rw [he.1]
      exact ⟨_, .acceptance he.2⟩
    · exact ⟨_, .earlyEnd (by rwa [not_and_or, Nat.not_le] at he)⟩

theorem Invariant.progress_matching (hg : g.WellFormed) (hs : start < g.rules.size)
    (hc : c.Invariant g s start) (hm : c.mode = .matching) : ∃ d, Step g s c d := by
  have hr : Replays g _ _ ([.nonTerminal start] ++ [.endMarker]) c.pending.values := hc.replays
  obtain ⟨ys, hp, -⟩ := hr.unframe
  refine exists_step_of_matching hg hm ?_ fun id htop ↦ ?_
  · intro he
    simp [he] at hp
  · refine hc.replays.has hg ?_ _ (List.mem_of_mem_head? htop) nofun
    simpa [Grammar.Has] using hs

theorem Invariant.progress_backtrack (hc : c.Invariant g s start) (hm : c.mode = .backtrack) :
    ∃ d, Step g s c d := by
  obtain ⟨mode, cursor, matched, pending, history, transition, exhausted⟩ := c
  cases hm
  obtain ⟨hr, -, hcur, hne⟩ := hc
  obtain rfl | ⟨below, x, rfl⟩ := matched.eq_empty_or_push
  · exact absurd rfl (hne rfl)
  simp only [Stack.bottomUp_push] at hr hcur
  cases x with
  | terminal id =>
    obtain ⟨i, rfl⟩ : ∃ i, cursor = i + 1 := ⟨_, by simpa using hcur⟩
    exact ⟨_, .retreat⟩
  | endMarker => exact absurd hr Replays.not_concat_endMarker
  | nonTerminal id =>
    -- The history has an entry for each non-terminal that was dealt with, and so one for the last.
    have hlen := hr.length_history
    obtain rfl | ⟨history, i, rfl⟩ := history.eq_empty_or_push
    · simp at hlen
    rw [Stack.bottomUp_push] at hr
    obtain ⟨alternative, rest, hi, hp, -⟩ := hr.concat_nonTerminal
    obtain ⟨rest, -, rfl⟩ := Stack.exists_pushAll_of_values hp
    cases hn : (g.alternativesOf id)[i + 1]? with
    | some next => exact ⟨_, .nextAlternative hi hn⟩
    | none =>
      by_cases hb : below = .empty
      · rw [hb]
        exact ⟨_, .reject hi hn⟩
      · exact ⟨_, .escalate hi hn hb⟩

theorem Invariant.progress (hg : g.WellFormed) (hs : start < g.rules.size)
    (hc : c.Invariant g s start) (hf : c.isFinal = false) : ∃ d, c.step g s = .ok d := by
  simp only [step_eq_ok_iff]
  cases hm : c.mode with
  | matching => exact hc.progress_matching hg hs hm
  | backtrack => exact hc.progress_backtrack hm
  | success => simp [isFinal, hm, Mode.isFinal] at hf
  | fail => simp [isFinal, hm, Mode.isFinal] at hf

theorem Run.invariant (h : Run g s n (initial start) c) : c.Invariant g s start :=
  h.preserves (fun _ _ hc hs ↦ hs.invariant hc) invariant_initial

end Configuration

open TopDown.Configuration

theorem Grammar.parseStream?_ne_step_error (hg : g.WellFormed) (hs : start < g.rules.size)
    (limits : Limits) (clock : Nat → Nat) (patience : Nat) (e : StepError) :
    g.parseStream? s start limits clock patience ≠ some (.error (.step e)) := by
  intro h
  obtain ⟨n, hn⟩ := Trace.returns_of_extend?_eq h
  exact hn.ne_step_error (fun _ _ hc hs ↦ hs.invariant hc) (fun _ hc ↦ hc.progress hg hs)
    invariant_initial e rfl

theorem Grammar.parse?_ne_step_error (hg : g.WellFormed) (tokens : List String)
    (name : Option String) (limits : Limits) (clock : Nat → Nat) (patience : Nat) (e : StepError) :
    g.parse? tokens name limits clock patience ≠ some (.error (.step e)) := by
  unfold parse?
  cases name with
  | none => exact parseStream?_ne_step_error hg hg.entryPoint_lt limits clock patience e
  | some name =>
    cases hid : g.nonTerminal? name with
    | none => simp [hid]
    | some id =>
      simp only [hid]
      exact parseStream?_ne_step_error hg (lt_of_nonTerminal? hid) limits clock patience e

/--
The symbols dealt with and the history determine the symbols to come, the tokens before the cursor
are those consumed, and so no step of a parse finds its configuration corrupt.
-/
theorem reachable_replays_and_steps {b : GrammarBuilder} (hb : b.build = .ok g) :
    (∀ start < g.rules.size, ∀ (s : TokenStream) (n : Nat) (c : Configuration),
      Run g s n (.initial start) c →
        Replays g c.matched.bottomUp c.history.bottomUp [.nonTerminal start, .endMarker]
          c.pending.values ∧
        g.AcceptsPrefix s (terminalsOf c.matched.bottomUp) ∧
        c.cursor = (terminalsOf c.matched.bottomUp).length ∧ c.cursor ≤ s.size ∧
        (c.isFinal = false → ∃ d, c.step g s = .ok d)) ∧
    (∀ start < g.rules.size, ∀ (s : TokenStream) (limits : Limits) (clock : Nat → Nat)
      (patience : Nat) (e : StepError),
      g.parseStream? s start limits clock patience ≠ some (.error (.step e))) ∧
    ∀ (tokens : List String) (name : Option String) (limits : Limits) (clock : Nat → Nat)
      (patience : Nat) (e : StepError),
      g.parse? tokens name limits clock patience ≠ some (.error (.step e)) := by
  have hg := GrammarBuilder.build_wellFormed hb
  refine ⟨fun start hs s n c hr ↦ ?_, fun start hs s ↦ ?_, Grammar.parse?_ne_step_error hg⟩
  · have hc := hr.invariant
    exact ⟨hc.replays, hc.accepts, hc.cursor_eq, hc.cursor_le, hc.progress hg hs⟩
  · exact Grammar.parseStream?_ne_step_error hg hs

/-- After the choice for `A` was changed in `a a b`. -/
theorem reachable_replays_and_steps_oneOrTwo :
    GrammarBuilder.oneOrTwo.build = .ok .oneOrTwo ∧
    Run .oneOrTwo (.ofTokens ["a", "a", "b"] "#") 6 (.initial 0)
      ⟨.matching, 0, .ofList [.nonTerminal 0, .nonTerminal 1],
        .ofList [.endMarker, .terminal 0, .terminal 1, .terminal 1], .ofList [0, 1],
        .nextAlternative, false⟩ ∧
    Replays .oneOrTwo [.nonTerminal 0, .nonTerminal 1] [0, 1] [.nonTerminal 0, .endMarker]
      [.terminal 1, .terminal 1, .terminal 0, .endMarker] := by
  have hr : Run .oneOrTwo (.ofTokens ["a", "a", "b"] "#") 6 (.initial 0)
      ⟨.matching, 0, .ofList [.nonTerminal 0, .nonTerminal 1],
        .ofList [.endMarker, .terminal 0, .terminal 1, .terminal 1], .ofList [0, 1],
        .nextAlternative, false⟩ := by decide +kernel
  have h := (reachable_replays_and_steps build_oneOrTwo).1 0 (by decide) _ _ _ hr
  exact ⟨build_oneOrTwo, hr, h.1⟩

end TopDown
