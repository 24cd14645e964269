import TopDown.CommandLine.Program
import TopDown.Proofs.Report
import TopDown.Proofs.StepBudget
import TopDown.Proofs.Termination
import TopDown.Proofs.TokenText
import TopDown.Proofs.Verdict

namespace TopDown

open TopDown.Configuration

namespace Trace

variable {g : Grammar} {s : TokenStream} {limits : Limits} {clock : Nat → Nat} {t t' : Trace}
  {r r' : Except ParseError Trace}

theorem extend?_unique {fuel fuel' : Nat} (h : extend? g s limits clock fuel t = some r)
    (h' : extend? g s limits clock fuel' t = some r') : r = r' := by
  obtain ⟨n, hn⟩ := returns_of_extend?_eq h
  obtain ⟨n', hn'⟩ := returns_of_extend?_eq h'
  have hmax := hn.extend?_eq (le_max_left n n')
  rw [hn'.extend?_eq (le_max_right n n')] at hmax
  exact (Option.some.inj hmax).symm

theorem Returns.error_cases {n : Nat} {e : ParseError} (hl : limits.time = none)
    (h : Returns g s limits clock n t (.error e)) :
    (∃ cause, e = .step cause) ∨ ∃ limit t', e = .stepLimitExceeded limit t' := by
  generalize hr : Except.error e = r at h
  induction h with
  | final => cases hr
  | @limit t e' hf hlimit =>
    cases hr
    right
    unfold limitError? at hlimit
    rw [hl, Option.bind_none, Option.or_none] at hlimit
    obtain ⟨limit, -, hsome⟩ := Option.bind_eq_some_iff.mp hlimit
    split at hsome
    · exact ⟨limit, t, (Option.some.inj hsome).symm⟩
    · cases hsome
  | stuck =>
    cases hr
    exact .inl ⟨_, rfl⟩
  | next _ _ _ _ ih => exact ih hr

theorem mode_eq_fail_of_not_accepted (hf : t.last.isFinal = true) (ha : t.accepted = false) :
    t.last.mode = .fail := by
  unfold accepted at ha
  unfold isFinal at hf
  cases hm : t.last.mode <;> simp [hm, Mode.isFinal] at hf ha ⊢

end Trace

namespace Grammar

variable {g : Grammar} {tokens : List String} {start : Option String} {limits : Limits}
  {clock : Nat → Nat} {patience patience' id : Nat} {r r' : Except ParseError Trace} {t : Trace}

def startRule? (g : Grammar) : Option String → Option Nat
  | none => some g.entryPoint
  | some name => g.nonTerminal? name

theorem startRule?_lt (hg : g.WellFormed) (h : g.startRule? start = some id) :
    id < g.rules.size := by
  cases start with
  | none =>
    cases h
    exact hg.entryPoint_lt
  | some name => exact lt_of_nonTerminal? h

theorem parse?_of_startRule? (h : g.startRule? start = some id) (limits : Limits)
    (clock : Nat → Nat) (patience : Nat) : g.parse? tokens start limits clock patience =
      g.parseStream? (.ofTokens tokens g.endMarker) id limits clock patience := by
  cases start with
  | none =>
    cases h
    rfl
  | some name =>
    have hname : g.nonTerminal? name = some id := h
    simp only [parse?, hname]

theorem exists_unknown_of_startRule? (h : g.startRule? start = none) (tokens : List String)
    (limits : Limits) (clock : Nat → Nat) : ∃ name, ∀ patience,
      g.parse? tokens start limits clock patience = some (.error (.unknownSymbol name)) := by
  cases start with
  | none => cases h
  | some name =>
    have hname : g.nonTerminal? name = none := h
    exact ⟨name, fun patience ↦ by simp only [parse?, hname]⟩

theorem parse?_unique (h : g.parse? tokens start limits clock patience = some r)
    (h' : g.parse? tokens start limits clock patience' = some r') : r = r' := by
  cases hid : g.startRule? start with
  | none =>
    obtain ⟨name, hname⟩ := exists_unknown_of_startRule? hid tokens limits clock
    exact Option.some.inj (h.symm.trans ((hname _).trans ((hname _).symm.trans h')))
  | some id =>
    rw [parse?_of_startRule? hid] at h h'
    exact Trace.extend?_unique h h'

theorem exists_run_of_parse? (h : g.parse? tokens start limits clock patience = some (.ok t)) :
    ∃ id n, g.startRule? start = some id ∧ t.last.isFinal = true ∧
      Run g (.ofTokens tokens g.endMarker) n (.initial id) t.last := by
  cases hid : g.startRule? start with
  | none =>
    obtain ⟨name, hname⟩ := exists_unknown_of_startRule? hid tokens limits clock
    rw [hname] at h
    cases h
  | some id =>
    rw [parse?_of_startRule? hid] at h
    obtain ⟨n, hn⟩ := Trace.returns_of_extend?_eq h
    exact ⟨id, n, rfl, hn.run.1, hn.run.2⟩

theorem error_cases_of_parse? (hg : g.WellFormed) (hl : limits.time = none) {e : ParseError}
    (h : g.parse? tokens start limits clock patience = some (.error e)) :
    (∃ name, e = .unknownSymbol name) ∨ ∃ limit t, e = .stepLimitExceeded limit t := by
  cases hid : g.startRule? start with
  | none =>
    obtain ⟨name, hname⟩ := exists_unknown_of_startRule? hid tokens limits clock
    rw [hname] at h
    cases h
    exact .inl ⟨name, rfl⟩
  | some id =>
    rw [parse?_of_startRule? hid] at h
    obtain ⟨n, hn⟩ := Trace.returns_of_extend?_eq h
    obtain ⟨cause, rfl⟩ | hlimit := hn.error_cases hl
    · exact absurd h (parseStream?_ne_step_error hg (startRule?_lt hg hid) limits clock patience _)
    · exact .inr hlimit

theorem exists_parse?_verdict (hg : g.WellFormed) (hc : g.leftRecursiveCycles = [])
    (hid : g.startRule? start = some id) (tokens : List String) (clock : Nat → Nat) :
    ∃ n t, (∀ patience, n ≤ patience →
        g.parse? tokens start .none clock patience = some (.ok t)) ∧
      (t.accepted = true ↔ ∃ w : List Nat, g.Derives [.nonTerminal id] (w.map .terminal) ∧
        g.Covers (.ofTokens tokens g.endMarker) w) := by
  obtain ⟨n, c, hr, hf⟩ :=
    exists_run_isFinal hg (startRule?_lt hg hid) hc (.ofTokens tokens g.endMarker)
  obtain ⟨t, -, -, rfl, ht⟩ := parseStream?_of_run_le hr hf le_rfl clock 0
  refine ⟨n, t, fun patience hp ↦ (parse?_of_startRule? hid _ _ _).trans (ht patience hp), ?_⟩
  cases ha : t.accepted with
  | true => exact iff_of_true rfl (hr.derives_of_success (beq_iff_eq.mp ha))
  | false =>
    have hm := Trace.mode_eq_fail_of_not_accepted hf ha
    exact iff_of_false Bool.false_ne_true (hr.not_derives_of_fail hm)

end Grammar

theorem GrammarBuilder.allowLeftRecursion_of_build {b : GrammarBuilder} {g : Grammar}
    (h : b.build = .ok g) : g.allowLeftRecursion = b.allowLeftRecursion := by
  obtain ⟨entryPoint, terminals, warnings, -, -, -, -, rfl⟩ := build_eq_ok_iff.mp h
  rfl

namespace CommandLine

variable {files : Files} {patience patience' maxSteps : Nat} {g : Grammar} {path : String}
  {input text start : Option String} {format : ReportFormat} {stats : Bool} {command : Command}
  {e : ProgramError} {o o' : Outcome}

/-- What can go wrong. No step of a parse fails, and no time is up. -/
def ProgramError.Expected : ProgramError → Prop
  | .parse (.step _) | .parse (.timeLimitExceeded _ _) => False
  | _ => True

theorem readFile_eq_error (h : readFile files path = .error e) : e.Expected := by
  unfold readFile at h
  split at h
  · cases h
  · cases h
    trivial

theorem loadGrammar_eq (files : Files) (path : String) : loadGrammar files path =
    match files path with
    | .error reason => .error (.cannotRead path reason)
    | .ok text =>
      match GrammarTable.ofJson text with
      | .error cause => .error (.invalidGrammarFile path cause)
      | .ok table =>
        match table.build with
        | .error error => .error (.grammar error)
        | .ok g => .ok g := by
  unfold loadGrammar readFile
  cases files path with
  | error reason => rfl
  | ok text => rfl

theorem loadGrammar_eq_error (h : loadGrammar files path = .error e) : e.Expected := by
  rw [loadGrammar_eq] at h
  split at h
  · cases h
    trivial
  · split at h
    · cases h
      trivial
    · split at h
      · cases h
        trivial
      · cases h

theorem exists_build_of_loadGrammar (h : loadGrammar files path = .ok g) :
    ∃ b : GrammarBuilder, b.build = .ok g := by
  rw [loadGrammar_eq] at h
  split at h
  · cases h
  · split at h
    · cases h
    · next table _ =>
      split at h
      · cases h
      · next hb =>
        cases h
        exact ⟨table.toBuilder, hb⟩

theorem exists_standardTokenizer : ∃ t, standardTokenizer = .ok t := by
  obtain ⟨t, ht, -⟩ := Tokenizer.exists_standard
  exact ⟨t, by rw [standardTokenizer, ht]⟩

theorem inputTokens_eq_error (h : inputTokens files input text = .error e) : e.Expected := by
  cases input with
  | none => cases text <;> cases h
  | some path =>
    obtain ⟨t, ht⟩ := exists_standardTokenizer
    cases hr : readFile files path with
    | error e' =>
      rw [inputTokens, hr] at h
      cases h
      exact readFile_eq_error hr
    | ok source =>
      rw [inputTokens, hr, ht] at h
      cases h

inductive Reports (files : Files) (patience : Nat) :
    Command → Grammar → ReportFormat → Trace → Prop
  | parse {path : String} {input text start : Option String} {format : ReportFormat}
      {maxSteps : Nat} {stats : Bool} {g : Grammar} {tokens : List String} {t : Trace}
      (hg : loadGrammar files path = .ok g) (ht : inputTokens files input text = .ok tokens)
      (hp : g.parse? tokens start (limitsOf maxSteps) noClock patience = some (.ok t)) :
      Reports files patience (.parse path input text start format maxSteps stats) g format t
  | demo {format : ReportFormat} {stats : Bool} {g : Grammar} {tokenizer : Tokenizer} {t : Trace}
      (hg : Demo.grammar = .ok g) (ht : standardTokenizer = .ok tokenizer)
      (hp : g.parse? (tokenizer.tokenizeFlat Demo.program) none {} noClock patience =
        some (.ok t)) :
      Reports files patience (.demo format stats) g format t

theorem Reports.isFinal {t : Trace} (h : Reports files patience command g format t) :
    t.last.isFinal = true := by
  cases h with
  | parse hg ht hp | demo hg ht hp =>
    obtain ⟨-, -, -, hf, -⟩ := Grammar.exists_run_of_parse? hp
    exact hf

/-- The ways that a command can take: what it comes to for each patience. -/
inductive Course (files : Files) (command : Command) : (Nat → Option Outcome) → Prop
  | failed {e : ProgramError} (he : e.Expected) (warnings : List String) :
      Course files command fun _ ↦ some ((Outcome.ofError e).withWarnings warnings)
  | printed {o : Outcome} (h : o.exitCode = 0) : Course files command fun _ ↦ some o
  | parsed {g : Grammar} {tokens : List String} {start : Option String} {limits : Limits}
      {format : ReportFormat} (hg : g.WellFormed) (hl : limits.time = none)
      (hr : ∀ {patience t}, g.parse? tokens start limits noClock patience = some (.ok t) →
        Reports files patience command g format t) (stats : Bool) (warnings : List String) :
      Course files command fun patience ↦
        (g.parse? tokens start limits noClock patience).map fun r ↦
          (Outcome.ofResult g format stats r).withWarnings warnings

theorem course_parse (files : Files) (path : String) (input text start : Option String)
    (format : ReportFormat) (maxSteps : Nat) (stats : Bool) :
    Course files (.parse path input text start format maxSteps stats)
      (runParse files · path input text start format maxSteps stats) := by
  unfold runParse
  cases hg : loadGrammar files path with
  | error e => exact .failed (loadGrammar_eq_error hg) []
  | ok g =>
    cases ht : inputTokens files input text with
    | error e => exact .failed (inputTokens_eq_error ht) _
    | ok tokens =>
      obtain ⟨b, hb⟩ := exists_build_of_loadGrammar hg
      exact .parsed (GrammarBuilder.build_wellFormed hb) rfl (fun hp ↦ .parse hg ht hp) stats _

theorem course_demo (files : Files) (format : ReportFormat) (stats : Bool) :
    Course files (.demo format stats) (runDemo · format stats) := by
  -- The tokenizer is rewritten while it is still under the match on the grammar; checking a step
  -- that takes that match away would compile its patterns.
  obtain ⟨tokenizer, ht⟩ := exists_standardTokenizer
  cases hg : Demo.grammar with
  | error error =>
    have hrun : (runDemo · format stats) = fun _ ↦ some (.ofError (.grammar error)) := by
      funext patience
      rw [runDemo, ht, hg]
    rw [hrun]
    exact .failed (e := .grammar error) trivial []
  | ok g =>
    have hrun : (runDemo · format stats) = fun patience ↦
        (g.parse? (tokenizer.tokenizeFlat Demo.program) none {} noClock patience).map
          (Outcome.ofResult g format stats) := by
      funext patience
      rw [runDemo, ht, hg]
    rw [hrun]
    exact .parsed (GrammarBuilder.build_wellFormed hg) rfl (fun hp ↦ .demo hg ht hp) stats []

theorem course_check (files : Files) (path : String) :
    Course files (.check path) fun _ ↦ some (runCheck files path) := by
  unfold runCheck
  cases hg : loadGrammar files path with
  | error e => exact .failed (loadGrammar_eq_error hg) []
  | ok g => exact .printed rfl

theorem course_tokenize (files : Files) (path : String) (patterns : List String) :
    Course files (.tokenize path patterns) fun _ ↦ some (runTokenize files path patterns) := by
  unfold runTokenize
  cases hr : readFile files path with
  | error e => exact .failed (readFile_eq_error hr) []
  | ok source =>
    dsimp only
    split
    · next error _ => exact .failed (e := .tokenizer error) trivial []
    · exact .printed rfl

theorem course_run (files : Files) (command : Command) :
    Course files command (run files · command) := by
  cases command with
  | parse path input text start format maxSteps stats =>
    exact course_parse files path input text start format maxSteps stats
  | check path => exact course_check files path
  | tokenize path patterns => exact course_tokenize files path patterns
  | demo format stats => exact course_demo files format stats

/-- What a command can come to: a failure, the report of a parse, or another output. -/
inductive Ends (files : Files) (patience : Nat) (command : Command) : Outcome → Prop
  | failed {e : ProgramError} (he : e.Expected) (warnings : List String) :
      Ends files patience command ((Outcome.ofError e).withWarnings warnings)
  | reported {g : Grammar} {format : ReportFormat} {t : Trace}
      (h : Reports files patience command g format t) (stats : Bool) (warnings : List String) :
      Ends files patience command ((Outcome.ofTrace t g format stats).withWarnings warnings)
  | printed {o : Outcome} (h : o.exitCode = 0) : Ends files patience command o

theorem expected_of_parse? (hg : g.WellFormed) {tokens : List String} {limits : Limits}
    {clock : Nat → Nat} (hl : limits.time = none) {error : ParseError}
    (h : g.parse? tokens start limits clock patience = some (.error error)) :
    (ProgramError.parse error).Expected := by
  obtain ⟨name, rfl⟩ | ⟨limit, t, rfl⟩ := Grammar.error_cases_of_parse? hg hl h <;> trivial

theorem Course.ends {f : Nat → Option Outcome} (h : Course files command f)
    (ho : f patience = some o) : Ends files patience command o := by
  cases h with
  | failed he warnings =>
    cases ho
    exact .failed he warnings
  | printed h0 =>
    cases ho
    exact .printed h0
  | parsed hg hl hr stats warnings =>
    obtain ⟨r, hp, rfl⟩ := Option.map_eq_some_iff.mp ho
    cases r with
    | ok t => exact .reported (hr hp) stats warnings
    | error error => exact .failed (expected_of_parse? hg hl hp) warnings

theorem Course.unique {f : Nat → Option Outcome} (h : Course files command f)
    (ho : f patience = some o) (ho' : f patience' = some o') : o = o' := by
  cases h with
  | failed | printed => exact Option.some.inj (ho.symm.trans ho')
  | parsed =>
    obtain ⟨r, hp, rfl⟩ := Option.map_eq_some_iff.mp ho
    obtain ⟨r', hp', rfl⟩ := Option.map_eq_some_iff.mp ho'
    rw [Grammar.parse?_unique hp hp']

theorem UsageError.outcome_cases (error : UsageError) : error.outcome.exitCode = 0 ∨
    error.outcome.exitCode = 2 ∧ error.outcome.output = "" := by
  cases error with
  | displayHelp | displayVersion => exact .inl rfl
  | _ => exact .inr ⟨rfl, rfl⟩

namespace Outcome

variable {t : Trace} {warnings : List String}

theorem exitCode_ofTrace_eq_zero :
    ((ofTrace t g format stats).withWarnings warnings).exitCode = 0 ↔ t.accepted = true := by
  change (if t.accepted then 0 else 1) = 0 ↔ _
  cases t.accepted <;> simp

theorem exitCode_ofTrace_eq_one :
    ((ofTrace t g format stats).withWarnings warnings).exitCode = 1 ↔ t.accepted = false := by
  change (if t.accepted then 0 else 1) = 1 ↔ _
  cases t.accepted <;> simp

theorem exitCode_ofTrace_lt_two :
    ((ofTrace t g format stats).withWarnings warnings).exitCode < 2 := by
  change (if t.accepted then 0 else 1) < 2
  cases t.accepted <;> simp

end Outcome

theorem Ends.output_of_failure (h : Ends files patience command o) (ho : o.exitCode = 2) :
    o.output = "" ∧ ∃ e : ProgramError, e.Expected ∧ e.lines <:+ o.errorLines := by
  cases h with
  | @failed e he warnings => exact ⟨rfl, e, he, List.suffix_append _ _⟩
  | reported => exact absurd ho Outcome.exitCode_ofTrace_lt_two.ne
  | printed h0 => cases h0.symm.trans ho

theorem Ends.report_of_rejection (h : Ends files patience command o) (ho : o.exitCode = 1) :
    ∃ g format t, Reports files patience command g format t ∧ t.last.mode = .fail ∧
      o.output = t.report g format ∧ t.Reported g false format o.output := by
  cases h with
  | failed => cases ho
  | @reported g format t hr stats warnings =>
    have ha := Outcome.exitCode_ofTrace_eq_one.mp ho
    have hm := Trace.mode_eq_fail_of_not_accepted hr.isFinal ha
    have hreported := t.reported_report g format
    rw [ha] at hreported
    exact ⟨g, format, t, hr, hm, rfl, hreported⟩
  | printed h0 => cases h0.symm.trans ho

theorem Ends.exitCode_le_two (h : Ends files patience command o) : o.exitCode ≤ 2 := by
  cases h with
  | failed => exact le_rfl
  | reported => exact Outcome.exitCode_ofTrace_lt_two.le
  | printed h0 =>
    rw [h0]
    exact Nat.zero_le 2

theorem inputTokens_of_readable (h : ∀ path ∈ input, ∃ source, files path = .ok source)
    (text : Option String) : ∃ tokens, inputTokens files input text = .ok tokens := by
  cases input with
  | none =>
    cases text with
    | none => exact ⟨[], rfl⟩
    | some text => exact ⟨Text.words text, rfl⟩
  | some path =>
    obtain ⟨source, hsource⟩ := h path rfl
    obtain ⟨t, ht⟩ := exists_standardTokenizer
    have hread : readFile files path = .ok source := by rw [readFile, hsource]
    exact ⟨t.tokenizeFlat source, by rw [inputTokens, hread, ht]; rfl⟩

theorem perform_of_ok {args : List String} (h : readCommand args = .ok command) :
    perform files patience args = run files patience command := by
  rw [perform, h]

theorem exists_runParse_verdict {tokens : List String} {id : Nat}
    (hg : loadGrammar files path = .ok g) (hleft : g.allowLeftRecursion = false)
    (hid : g.startRule? start = some id) (ht : inputTokens files input text = .ok tokens)
    (format : ReportFormat) (stats : Bool) :
    ∃ n t, (∀ patience, n ≤ patience →
        runParse files patience path input text start format 0 stats =
          some ((Outcome.ofTrace t g format stats).withWarnings (g.warnings.map (·.message)))) ∧
      (t.accepted = true ↔ ∃ w : List Nat, g.Derives [.nonTerminal id] (w.map .terminal) ∧
        g.Covers (.ofTokens tokens g.endMarker) w) := by
  obtain ⟨b, hb⟩ := exists_build_of_loadGrammar hg
  have hcycles := Grammar.leftRecursiveCycles_of_build hb
    ((GrammarBuilder.allowLeftRecursion_of_build hb).symm.trans hleft)
  obtain ⟨n, t, hparse, hverdict⟩ := Grammar.exists_parse?_verdict
    (GrammarBuilder.build_wellFormed hb) hcycles hid tokens noClock
  refine ⟨n, t, fun patience hp ↦ ?_, hverdict⟩
  have hlimits : limitsOf 0 = .none := rfl
  simp only [runParse, hg, ht, hlimits, hparse patience hp, Option.map_some]
  rfl

end CommandLine

open CommandLine

/--
A command that exits with status two has failed in an expected way and printed nothing, and one that
exits with status one has printed the report of a parse that was rejected. With a grammar that is
not allowed to be left-recursive, and without a limit on the steps, a parse ends, and the status
tells whether the tokens can be derived.
-/
theorem exit_status_consistent (files : Files) (args : List String) :
    (∀ patience o, perform files patience args = some o →
      o.exitCode ≤ 2 ∧
      (o.exitCode = 2 → o.output = "" ∧ ((∃ e, readCommand args = .error e) ∨
        ∃ e : ProgramError, e.Expected ∧ e.lines <:+ o.errorLines)) ∧
      (o.exitCode = 1 → ∃ command g format t, readCommand args = .ok command ∧
        Reports files patience command g format t ∧ t.last.mode = .fail ∧
        o.output = t.report g format ∧ t.Reported g false format o.output) ∧
      ∀ patience' o', perform files patience' args = some o' → o' = o) ∧
    ∀ path input text start format stats g id,
      readCommand args = .ok (.parse path input text start format 0 stats) →
      loadGrammar files path = .ok g → g.allowLeftRecursion = false →
      g.startRule? start = some id → (∀ path ∈ input, ∃ source, files path = .ok source) →
      ∃ tokens o, inputTokens files input text = .ok tokens ∧
        (∃ n, ∀ patience, n ≤ patience → perform files patience args = some o) ∧
        (o.exitCode = 0 ↔ ∃ w : List Nat, g.Derives [.nonTerminal id] (w.map .terminal) ∧
          g.Covers (.ofTokens tokens g.endMarker) w) ∧
        (o.exitCode = 1 ↔ ¬ ∃ w : List Nat, g.Derives [.nonTerminal id] (w.map .terminal) ∧
          g.Covers (.ofTokens tokens g.endMarker) w) := by
  constructor
  · intro patience o h
    cases hc : readCommand args with
    | error e =>
      simp only [perform, hc, Option.some.injEq] at h ⊢
      subst h
      obtain h0 | ⟨h2, hout⟩ := e.outcome_cases
      · rw [h0]
        exact ⟨Nat.zero_le 2, nofun, nofun, fun _ _ ho' ↦ ho'.symm⟩
      · rw [h2]
        exact ⟨le_rfl, fun _ ↦ ⟨hout, .inl ⟨e, rfl⟩⟩, nofun, fun _ _ ho' ↦ ho'.symm⟩
    | ok command =>
      simp only [perform_of_ok hc] at h ⊢
      have hcourse := course_run files command
      have hends := hcourse.ends h
      refine ⟨hends.exitCode_le_two, fun h2 ↦ ?_, fun h1 ↦ ?_, fun _ _ h' ↦ hcourse.unique h' h⟩
      · obtain ⟨hout, herror⟩ := hends.output_of_failure h2
        exact ⟨hout, .inr herror⟩
      · obtain ⟨g, format, t, hr, hm, hout⟩ := hends.report_of_rejection h1
        exact ⟨command, g, format, t, rfl, hr, hm, hout⟩
  · intro path input text start format stats g id hc hg hleft hid hinput
    obtain ⟨tokens, ht⟩ := inputTokens_of_readable hinput text
    obtain ⟨n, t, hrun, hverdict⟩ := exists_runParse_verdict hg hleft hid ht format stats
    have hperform (patience : Nat) (hp : n ≤ patience) : perform files patience args =
        some ((Outcome.ofTrace t g format stats).withWarnings (g.warnings.map (·.message))) := by
      rw [perform_of_ok hc]
      exact hrun patience hp
    refine ⟨tokens, _, ht, ⟨n, hperform⟩, Outcome.exitCode_ofTrace_eq_zero.trans hverdict, ?_⟩
    rw [Outcome.exitCode_ofTrace_eq_one, ← hverdict, Bool.not_eq_true]

def oneOrTwoText : String :=
  "\x7b\"start\": \"S\", \"rules\": [" ++
    "\x7b\"name\": \"S\", \"alternatives\": [[\"A\", \"b\"]]\x7d, " ++
    "\x7b\"name\": \"A\", \"alternatives\": [[\"a\"], [\"a\", \"a\"]]\x7d]\x7d"

def onlyOneOrTwo (path : String) : Except String String :=
  if path = "g.json" then .ok oneOrTwoText else .error "No such file"

def parseArguments (text format maxSteps : String) : List String :=
  ["parse", "-g", "g.json", "-t", text, "-f", format, "--max-steps", maxSteps]

theorem loadGrammar_onlyOneOrTwo : loadGrammar onlyOneOrTwo "g.json" = .ok .oneOrTwo := by
  decide +kernel

theorem perform_onlyOneOrTwo {text name steps : String} {format : ReportFormat} {maxSteps : Nat}
    (h : readCommand (parseArguments text name steps) =
      .ok (.parse "g.json" none (some text) none format maxSteps false)) (patience : Nat) :
    perform onlyOneOrTwo patience (parseArguments text name steps) =
      (Grammar.oneOrTwo.parse? (Text.words text) none (limitsOf maxSteps) noClock patience).map
        fun r ↦ (Outcome.ofResult .oneOrTwo format false r).withWarnings [] := by
  rw [perform_of_ok h, run, runParse, loadGrammar_onlyOneOrTwo]
  rfl

def rejectedTable : String :=
  Text.unlines
    [" step  s  cursor  rule  matched  pending  alternatives",
      "    0  n       0  null           S #      ",
      "    1  n       0  1     S        A b #    0",
      "    2  n       0  1     S A      a b #    0 0",
      "    3  r       0  4     S A      a b #    0 0",
      "    4  n       0  6a    S A      a a b #  0 1",
      "    5  r       0  4     S A      a a b #  0 1",
      "    6  r       0  6c    S        A b #    0",
      "    7  e       0  6b    S        A b #    0",
      "rejected"]

/-- Tokens that are rejected, in two formats, and tokens for which two steps are not enough. -/
theorem exit_status_consistent_oneOrTwo :
    (∃ o, perform onlyOneOrTwo 20 (parseArguments "b" "table" "0") = some o ∧ o.exitCode = 1 ∧
      o.output = rejectedTable ∧
      (∃ command g format t, Reports onlyOneOrTwo 20 command g format t ∧ t.last.mode = .fail ∧
        o.output = t.report g format ∧ t.Reported g false format o.output) ∧
      ¬ ∃ w : List Nat, Grammar.oneOrTwo.Derives [.nonTerminal 0] (w.map .terminal) ∧
        Grammar.oneOrTwo.Covers (.ofTokens ["b"] "#") w) ∧
    (∃ o, perform onlyOneOrTwo 20 (parseArguments "b" "summary" "0") = some o ∧ o.exitCode = 1 ∧
      o.output = "rejected after 7 steps\n") ∧
    ∃ o, perform onlyOneOrTwo 20 (parseArguments "a a b" "json" "2") = some o ∧ o.exitCode = 2 ∧
      o.output = "" ∧ ∃ e : ProgramError, e.Expected ∧ e.lines <:+ o.errorLines := by
  have hread : readCommand (parseArguments "b" "table" "0") =
      .ok (.parse "g.json" none (some "b") none .table 0 false) := by decide +kernel
  have hread₁ : readCommand (parseArguments "b" "summary" "0") =
      .ok (.parse "g.json" none (some "b") none .summary 0 false) := by decide +kernel
  have hread₂ : readCommand (parseArguments "a a b" "json" "2") =
      .ok (.parse "g.json" none (some "a a b") none .json 2 false) := by decide +kernel
  have hrejected : ((perform onlyOneOrTwo 20 (parseArguments "b" "table" "0")).any
      fun o ↦ o.exitCode == 1 && o.output == rejectedTable) = true := by
    rw [perform_onlyOneOrTwo hread]
    decide +kernel
  have hsummary : ((perform onlyOneOrTwo 20 (parseArguments "b" "summary" "0")).any
      fun o ↦ o.exitCode == 1 && o.output == "rejected after 7 steps\n") = true := by
    rw [perform_onlyOneOrTwo hread₁]
    decide +kernel
  have hstopped : ((perform onlyOneOrTwo 20 (parseArguments "a a b" "json" "2")).any
      (·.exitCode == 2)) = true := by
    rw [perform_onlyOneOrTwo hread₂]
    decide +kernel
  simp only [Option.any_eq_true, Bool.and_eq_true, beq_iff_eq] at hrejected hsummary hstopped
  obtain ⟨o, ho, h1, htable⟩ := hrejected
  obtain ⟨o₂, ho₂, h2⟩ := hstopped
  refine ⟨⟨o, ho, h1, htable, ?_, ?_⟩, hsummary, o₂, ho₂, h2, ?_⟩
  · obtain ⟨-, -, hreport, -⟩ := (exit_status_consistent _ _).1 _ _ ho
    obtain ⟨command, g, format, t, -, hr⟩ := hreport h1
    exact ⟨command, g, format, t, hr⟩
  · obtain ⟨tokens, o', ht, ⟨n, hn⟩, -, hiff⟩ :=
      (exit_status_consistent onlyOneOrTwo _).2 _ _ _ none _ _ _ 0 hread loadGrammar_onlyOneOrTwo
        rfl rfl nofun
    obtain ⟨-, -, -, hunique⟩ := (exit_status_consistent _ _).1 _ _ ho
    have hwords : Text.words "b" = ["b"] := by decide +kernel
    rw [inputTokens, hwords] at ht
    cases ht
    rw [hunique n o' (hn n le_rfl)] at hiff
    exact hiff.mp h1
  · obtain ⟨-, hfailed, -⟩ := (exit_status_consistent _ _).1 _ _ ho₂
    obtain ⟨hout, ⟨e, he⟩ | herror⟩ := hfailed h2
    · cases he.symm.trans hread₂
    · exact ⟨hout, herror⟩

end TopDown
