import Mathlib.Logic.Function.Basic
import TopDown.Parsing.Metrics
import TopDown.Parsing.Run
import TopDown.Proofs.LeftRecursiveCycle

namespace TopDown

namespace Stack

variable {α β : Type} {f : α → β}

def map (f : α → β) (s : Stack α) : Stack β :=
  ⟨s.values.map f, s.size, by rw [s.size_eq, List.length_map]⟩

@[simp] theorem values_map (f : α → β) (s : Stack α) : (s.map f).values = s.values.map f := rfl

@[simp] theorem map_empty (f : α → β) : (empty : Stack α).map f = empty := rfl

@[simp] theorem map_push (f : α → β) (s : Stack α) (a : α) :
    (s.push a).map f = (s.map f).push (f a) := rfl

@[simp] theorem bottomUp_map (f : α → β) (s : Stack α) :
    (s.map f).bottomUp = s.bottomUp.map f :=
  List.map_reverse.symm

@[simp] theorem map_pushAll (f : α → β) (s : Stack α) (xs : List α) :
    (s.pushAll xs).map f = (s.map f).pushAll (xs.map f) :=
  ext (by simp)

theorem dropAll?_map [DecidableEq α] [DecidableEq β] (hf : f.Injective) (s : Stack α)
    (xs : List α) : (s.map f).dropAll? (xs.map f) = (s.dropAll? xs).map (·.map f) := by
  induction xs generalizing s with
  | nil => rfl
  | cons a xs ih =>
    obtain rfl | ⟨t, c, rfl⟩ := s.eq_empty_or_push
    · rfl
    · simp only [map_push, List.map_cons, dropAll?, pop?_push, hf.eq_iff, ih]
      split <;> rfl

end Stack

structure SymbolMap where
  nonTerminal : Nat → Nat
  terminal : Nat → Nat

namespace SymbolMap

variable (f : SymbolMap) {g g' : Grammar} {s : TokenStream} {c : Configuration} {id : Nat}

def apply : Symbol → Symbol
  | .nonTerminal id => .nonTerminal (f.nonTerminal id)
  | .terminal id => .terminal (f.terminal id)
  | .endMarker => .endMarker

/-- The grammar `g'` has all of `g` under new numbers, and nothing else under these. -/
structure Embeds (g g' : Grammar) : Prop where
  nonTerminal_injective : f.nonTerminal.Injective
  terminal_injective : f.terminal.Injective
  alternativesOf : ∀ id,
    g'.alternativesOf (f.nonTerminal id) = (g.alternativesOf id).map (·.map f.apply)
  ruleName : ∀ id, g'.ruleName (f.nonTerminal id) = g.ruleName id
  terminals : ∀ id, g'.terminals[f.terminal id]? = g.terminals[id]?
  endMarker : g'.endMarker = g.endMarker

variable {f}

theorem Embeds.apply_injective (h : f.Embeds g g') : f.apply.Injective := by
  intro x y hxy
  cases x <;> cases y <;> simp only [apply, Symbol.nonTerminal.injEq, Symbol.terminal.injEq,
    reduceCtorEq] at hxy ⊢
  · exact h.nonTerminal_injective hxy
  · exact h.terminal_injective hxy

theorem Embeds.name (h : f.Embeds g g') (x : Symbol) : g'.name (f.apply x) = g.name x := by
  cases x with
  | nonTerminal id => exact h.ruleName id
  | terminal id => simp only [apply, Grammar.name, h.terminals]
  | endMarker => exact h.endMarker

theorem Embeds.accepts (h : f.Embeds g g') (id : Nat) :
    g'.accepts (f.terminal id) = g.accepts id := by
  funext token
  simp only [Grammar.accepts, h.terminals]

end SymbolMap

namespace Configuration

def rename (f : SymbolMap) (c : Configuration) : Configuration :=
  { c with matched := c.matched.map f.apply, pending := c.pending.map f.apply }

variable {f : SymbolMap} {g g' : Grammar} {s : TokenStream}

@[simp] theorem matched_rename (c : Configuration) :
    (c.rename f).matched = c.matched.map f.apply := rfl

@[simp] theorem pending_rename (c : Configuration) :
    (c.rename f).pending = c.pending.map f.apply := rfl

theorem acceptsToken_rename (h : f.Embeds g g') (c : Configuration) (id : Nat) :
    (c.rename f).acceptsToken g' s (f.terminal id) = c.acceptsToken g s id := by
  rw [acceptsToken, h.accepts]
  rfl

theorem matchingStep_rename (h : f.Embeds g g') (c : Configuration) :
    (c.rename f).matchingStep g' s = (c.matchingStep g s).map (·.rename f) := by
  unfold matchingStep
  obtain hp | ⟨rest, x, hp⟩ := c.pending.eq_empty_or_push
  · rw [pending_rename, hp]
    rfl
  rw [pending_rename, hp, Stack.map_push, Stack.pop?_push, Stack.pop?_push]
  cases x with
  | nonTerminal id =>
    simp only [SymbolMap.apply, h.alternativesOf, h.ruleName]
    cases g.alternativesOf id with
    | nil => rfl
    | cons first others => simp [Except.map, rename, SymbolMap.apply]
  | terminal id =>
    have haccepts := acceptsToken_rename (s := s) h c id
    by_cases ha : c.acceptsToken g s id = true
    · simp only [SymbolMap.apply, if_pos ha, if_pos (haccepts.trans ha)]
      rfl
    · simp only [SymbolMap.apply, if_neg ha, if_neg (haccepts.trans_ne ha)]
      rfl
  | endMarker =>
    simp only [SymbolMap.apply]
    by_cases he : (rest.isEmpty && decide (c.cursor ≥ s.input.size)) = true
    · rw [if_pos he]
      exact if_pos he
    · rw [if_neg he]
      exact if_neg he

theorem changeChoice_rename (h : f.Embeds g g') (c : Configuration) (id : Nat)
    (below : Stack Symbol) (index : Nat) (history : Stack Nat) :
    (c.rename f).changeChoice g' (f.nonTerminal id) (below.map f.apply) index history =
      (c.changeChoice g id below index history).map (·.rename f) := by
  unfold changeChoice
  simp only [h.alternativesOf, h.ruleName, List.getElem?_map, pending_rename, matched_rename]
  cases (g.alternativesOf id)[index]? with
  | none => rfl
  | some spliced =>
    simp only [Option.map_some, Stack.dropAll?_map h.apply_injective]
    cases c.pending.dropAll? spliced with
    | none => rfl
    | some rest =>
      cases (g.alternativesOf id)[index + 1]? with
      | some next => simp [Except.map, rename]
      | none =>
        by_cases hb : below.isEmpty = true
        · simp only [Option.map_some, Option.map_none, if_pos hb]
          exact if_pos hb
        · simp only [Option.map_some, Option.map_none, if_neg hb]
          exact if_neg hb

theorem backtrackStep_rename (h : f.Embeds g g') (c : Configuration) :
    (c.rename f).backtrackStep g' = (c.backtrackStep g).map (·.rename f) := by
  unfold backtrackStep
  obtain hm | ⟨below, x, hm⟩ := c.matched.eq_empty_or_push
  · rw [matched_rename, hm]
    rfl
  rw [matched_rename, hm, Stack.map_push, Stack.pop?_push, Stack.pop?_push]
  cases x with
  | terminal id =>
    obtain ⟨mode, cursor, matched, pending, history, transition, exhausted⟩ := c
    cases cursor <;> rfl
  | endMarker => rfl
  | nonTerminal id =>
    have hhistory : (c.rename f).history = c.history := rfl
    simp only [SymbolMap.apply, hhistory, h.ruleName]
    cases c.history.pop? with
    | none => rfl
    | some top => exact changeChoice_rename h c id below top.1 top.2

theorem step_rename (h : f.Embeds g g') (c : Configuration) :
    (c.rename f).step g' s = (c.step g s).map (·.rename f) := by
  unfold step
  have hmode : (c.rename f).mode = c.mode := rfl
  rw [hmode]
  cases c.mode with
  | matching => exact matchingStep_rename h c
  | backtrack => exact backtrackStep_rename h c
  | success | fail => rfl

end Configuration

def Trace.rename (f : SymbolMap) (t : Trace) : Trace where
  first := t.first.rename f
  later := t.later.map (·.rename f)

def ParseError.rename (f : SymbolMap) : ParseError → ParseError
  | .unknownSymbol name => .unknownSymbol name
  | .step error => .step error
  | .stepLimitExceeded limit trace => .stepLimitExceeded limit (trace.rename f)
  | .timeLimitExceeded limit trace => .timeLimitExceeded limit (trace.rename f)

namespace Trace

variable {f : SymbolMap} {g g' : Grammar} {t : Trace}

theorem toList_rename (t : Trace) : (t.rename f).toList = t.toList.map (·.rename f) := by
  simp [rename, toList]

theorem steps_rename (t : Trace) : (t.rename f).steps = t.steps :=
  Array.size_map

theorem push_rename (t : Trace) (c : Configuration) :
    (t.rename f).push (c.rename f) = (t.push c).rename f := by
  simp [rename, push]

theorem last_rename (t : Trace) : (t.rename f).last = t.last.rename f := by
  simp only [last, rename, Array.back?_map]
  cases t.later.back? <;> rfl

theorem limitError?_rename (limits : Limits) (clock : Nat → Nat) (t : Trace) :
    (t.rename f).limitError? limits clock = (t.limitError? limits clock).map (·.rename f) := by
  simp only [limitError?, steps_rename, Option.map_or, Option.map_bind]
  congr 2 <;> funext limit <;> rw [Function.comp_apply, apply_ite (Option.map _)] <;> rfl

def renameResult (f : SymbolMap) : Except ParseError Trace → Except ParseError Trace
  | .ok t => .ok (t.rename f)
  | .error e => .error (e.rename f)

theorem extend?_rename (h : f.Embeds g g') (s : TokenStream) (limits : Limits) (clock : Nat → Nat)
    (fuel : Nat) (t : Trace) :
    (t.rename f).extend? g' s limits clock fuel =
      (t.extend? g s limits clock fuel).map (renameResult f) := by
  have hfinal (t : Trace) : (t.rename f).last.isFinal = t.last.isFinal := by
    rw [last_rename]
    rfl
  induction fuel generalizing t with
  | zero =>
    unfold extend?
    rw [hfinal, limitError?_rename]
    split
    · rfl
    · cases t.limitError? limits clock <;> rfl
  | succ fuel ih =>
    unfold extend?
    rw [hfinal, limitError?_rename, last_rename, Configuration.step_rename h]
    split
    · rfl
    · cases t.limitError? limits clock with
      | some e => rfl
      | none =>
        cases t.last.step g s with
        | error e => rfl
        | ok c =>
          change extend? g' s limits clock fuel ((t.rename f).push (c.rename f)) = _
          rw [push_rename]
          exact ih _

end Trace

structure TraceOutcome where
  accepted : Bool
  metrics : Metrics
  derivation? : Option (List (String × Nat))
  rows : List TraceRow
  deriving DecidableEq, Repr

/-- The outcome of a parse, with names in place of numbers. -/
structure ParseOutcome where
  error? : Option (String × String)
  trace? : Option TraceOutcome
  deriving DecidableEq, Repr

def Trace.outcome (g : Grammar) (t : Trace) : TraceOutcome where
  accepted := t.accepted
  metrics := t.metrics
  derivation? := t.derivation? g
  rows := t.rows g

def Grammar.outcome (g : Grammar) : Except ParseError Trace → ParseOutcome
  | .ok t => ⟨none, some (t.outcome g)⟩
  | .error e => ⟨some (e.code, e.message), e.partialTrace?.map (·.outcome g)⟩

section

variable {f : SymbolMap} {g g' : Grammar}

theorem Configuration.row_rename (h : f.Embeds g g') (c : Configuration) :
    (c.rename f).row g' = c.row g := by
  have hname (xs : List Symbol) : (xs.map f.apply).map g'.name = xs.map g.name := by
    rw [List.map_map]
    exact List.map_congr_left fun x _ ↦ h.name x
  simp only [row, matched_rename, pending_rename, Stack.bottomUp_map, Stack.values_map, hname]
  rfl

theorem Trace.metrics_rename (t : Trace) : (t.rename f).metrics = t.metrics := by
  rw [metrics, rename, Array.foldl_map]
  rfl

theorem Trace.accepted_rename (t : Trace) : (t.rename f).accepted = t.accepted := by
  rw [accepted, last_rename]
  rfl

theorem Trace.derivation?_rename (h : f.Embeds g g') (t : Trace) :
    (t.rename f).derivation? g' = t.derivation? g := by
  have hrules (xs : List Symbol) :
      ((xs.map f.apply).filterMap Symbol.nonTerminal?).map g'.ruleName =
        (xs.filterMap Symbol.nonTerminal?).map g.ruleName := by
    rw [List.filterMap_map, List.map_filterMap, List.map_filterMap]
    refine congrArg (List.filterMap · xs) (funext fun x ↦ ?_)
    cases x with
    | nonTerminal id => exact congrArg some (h.ruleName id)
    | terminal | endMarker => rfl
  simp only [derivation?, accepted_rename, last_rename, Configuration.matched_rename,
    Stack.bottomUp_map, hrules]
  rfl

theorem Trace.rows_rename (h : f.Embeds g g') (t : Trace) : (t.rename f).rows g' = t.rows g := by
  rw [rows, toList_rename, List.map_map]
  exact List.map_congr_left fun c _ ↦ c.row_rename h

theorem Trace.outcome_rename (h : f.Embeds g g') (t : Trace) :
    (t.rename f).outcome g' = t.outcome g := by
  simp only [outcome, accepted_rename, metrics_rename, derivation?_rename h, rows_rename h]

theorem ParseError.message_rename (e : ParseError) : (e.rename f).message = e.message := by
  cases e with
  | unknownSymbol | step | stepLimitExceeded => rfl
  | timeLimitExceeded limit t =>
    exact congrArg
      (fun steps ↦ s!"Time limit of {Text.duration limit} exceeded after {steps} steps")
      t.steps_rename

theorem ParseError.partialTrace?_rename (e : ParseError) :
    (e.rename f).partialTrace? = e.partialTrace?.map (·.rename f) := by
  cases e <;> rfl

theorem Grammar.outcome_renameResult (h : f.Embeds g g') (r : Except ParseError Trace) :
    g'.outcome (Trace.renameResult f r) = g.outcome r := by
  cases r with
  | ok t => simp only [Trace.renameResult, outcome, t.outcome_rename h]
  | error e =>
    have hcode : (e.rename f).code = e.code := by cases e <;> rfl
    have houtcome : (fun t : Trace ↦ (t.rename f).outcome g') = fun t ↦ t.outcome g :=
      funext fun t ↦ t.outcome_rename h
    simp only [Trace.renameResult, outcome, hcode, ParseError.message_rename,
      ParseError.partialTrace?_rename, Option.map_map, Function.comp_def, houtcome]

theorem Grammar.outcome_parseStream? (h : f.Embeds g g') (s : TokenStream) (start : Nat)
    (limits : Limits) (clock : Nat → Nat) (patience : Nat) :
    (g'.parseStream? s (f.nonTerminal start) limits clock patience).map g'.outcome =
      (g.parseStream? s start limits clock patience).map g.outcome := by
  have hrun := Trace.extend?_rename h s limits clock (limits.maxSteps.getD patience)
    ⟨.initial start, #[]⟩
  have hfirst : (⟨.initial (f.nonTerminal start), #[]⟩ : Trace) =
      Trace.rename f ⟨.initial start, #[]⟩ := by
    rw [Trace.rename, Array.map_empty]
    rfl
  rw [parseStream?, parseStream?, hfirst, hrun, Option.map_map]
  exact congrArg (Option.map · _) (funext (outcome_renameResult h))

end

namespace SymbolMap.Embeds

open Grammar Grammar.LeftRecursion

variable {f : SymbolMap} {g g' : Grammar} {known known' : Array Bool}

theorem allKnown (hk : ∀ id, isKnown known' (f.nonTerminal id) = isKnown known id)
    (xs : List Symbol) : Grammar.allKnown known' (xs.map f.apply) = Grammar.allKnown known xs := by
  rw [Grammar.allKnown, Grammar.allKnown, List.all_map]
  refine congrArg xs.all (funext fun x ↦ ?_)
  cases x with
  | nonTerminal id => exact hk id
  | terminal | endMarker => rfl

theorem isKnown_nullableAfter (h : f.Embeds g g') (n id : Nat) :
    isKnown (g'.nullableAfter n) (f.nonTerminal id) = isKnown (g.nullableAfter n) id := by
  induction n generalizing id with
  | zero => simp [isKnown, nullableAfter, Array.getD]
  | succ n ih =>
    rw [nullableAfter, nullableAfter, isKnown_nullableRound, isKnown_nullableRound,
      h.alternativesOf, List.any_map]
    exact congrArg (g.alternativesOf id).any (funext (allKnown ih))

theorem isKnown_nullable (h : f.Embeds g g') (id : Nat) :
    isKnown g'.nullable (f.nonTerminal id) = isKnown g.nullable id := by
  rw [← nullableAfter_of_le (Nat.le_max_left g.rules.size g'.rules.size),
    ← nullableAfter_of_le (Nat.le_max_right g.rules.size g'.rules.size)]
  exact h.isKnown_nullableAfter _ id

theorem leadingNonTerminals (hk : ∀ id, isKnown known' (f.nonTerminal id) = isKnown known id)
    (xs : List Symbol) : Grammar.leadingNonTerminals known' (xs.map f.apply) =
      (Grammar.leadingNonTerminals known xs).map f.nonTerminal := by
  induction xs with
  | nil => rfl
  | cons x xs ih =>
    cases x with
    | terminal | endMarker => rfl
    | nonTerminal id =>
      simp only [List.map_cons, apply, Grammar.leadingNonTerminals, hk, ih]
      split <;> rfl

theorem follows (h : f.Embeds g g') {next id : Nat}
    (hn : Follows (g.leftCorners g.nullable) next id) :
    Follows (g'.leftCorners g'.nullable) (f.nonTerminal next) (f.nonTerminal id) := by
  simp only [Follows, leftCorners, List.mem_eraseDups, List.mem_flatMap, h.alternativesOf] at hn ⊢
  obtain ⟨alternative, ha, hn⟩ := hn
  refine ⟨_, List.mem_map_of_mem ha, ?_⟩
  rw [leadingNonTerminals h.isKnown_nullable]
  exact List.mem_map_of_mem hn

theorem leftRecursiveCycles_eq_nil (h : f.Embeds g g') (hg : g'.leftRecursiveCycles = []) :
    g.leftRecursiveCycles = [] := by
  rw [leftRecursiveCycles_eq_nil_iff] at hg ⊢
  exact Subrelation.wf h.follows (InvImage.wf f.nonTerminal hg)

end SymbolMap.Embeds

end TopDown
