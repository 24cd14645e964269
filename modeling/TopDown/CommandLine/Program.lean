import TopDown.CommandLine.Help
import TopDown.Demo
import TopDown.Grammar.Printer
import TopDown.Parsing.Run
import TopDown.Table.Reader
import TopDown.Text.Words
import TopDown.Tokenizer

namespace TopDown.CommandLine

/-- The files of a system: a text for a path, or the reason why there is none. -/
abbrev Files := String → Except String String

inductive ProgramError where
  | cannotRead (path reason : String)
  | invalidGrammarFile (path : String) (cause : Json.Error)
  | grammar (error : GrammarError)
  | tokenizer (error : TokenizerError)
  | parse (error : ParseError)
  deriving DecidableEq, Repr

def ProgramError.message : ProgramError → String
  | .cannotRead path reason => s!"Cannot read {path}: {reason}"
  | .invalidGrammarFile path _ => s!"Invalid grammar file {path}"
  | .grammar error => error.message
  | .tokenizer error => error.message
  | .parse error => error.message

def ProgramError.lines (error : ProgramError) : List String :=
  let stopped := match error with
    | .parse error => error.partialTrace?.map fun (t : Trace) ↦ s!"Stopped after {t.steps} steps"
    | _ => none
  s!"Error: {error.message}" :: stopped.toList

structure Outcome where
  exitCode : Nat
  output : String := ""
  errorLines : List String := []
  deriving DecidableEq, Repr

namespace Outcome

def ofError (error : ProgramError) : Outcome where
  exitCode := 2
  errorLines := error.lines

def withWarnings (warnings : List String) (o : Outcome) : Outcome :=
  { o with errorLines := warnings.map ("warning: " ++ ·) ++ o.errorLines }

def ofTrace (t : Trace) (g : Grammar) (format : ReportFormat) (stats : Bool) : Outcome where
  exitCode := if t.accepted then 0 else 1
  output := t.report g format
  errorLines := if stats then t.metrics.lines else []

def ofResult (g : Grammar) (format : ReportFormat) (stats : Bool) :
    Except ParseError Trace → Outcome
  | .ok t => ofTrace t g format stats
  | .error error => ofError (.parse error)

end Outcome

variable (files : Files)

def readFile (path : String) : Except ProgramError String :=
  match files path with
  | .ok text => .ok text
  | .error reason => .error (.cannotRead path reason)

def loadGrammar (path : String) : Except ProgramError Grammar := do
  let text ← readFile files path
  match GrammarTable.ofJson text with
  | .error cause => throw (.invalidGrammarFile path cause)
  | .ok table =>
    match table.build with
    | .error error => throw (.grammar error)
    | .ok g => return g

def standardTokenizer : Except ProgramError Tokenizer :=
  match Tokenizer.standard with
  | .ok t => .ok t
  | .error error => .error (.tokenizer error)

def inputTokens (input tokens : Option String) : Except ProgramError (List String) :=
  match input, tokens with
  | some path, _ => do
    let source ← readFile files path
    return (← standardTokenizer).tokenizeFlat source
  | none, some tokens => .ok (Text.words tokens)
  | none, none => .ok []

/-- A limit of zero steps is no limit. -/
def limitsOf (maxSteps : Nat) : Limits :=
  { maxSteps := if maxSteps = 0 then none else some maxSteps }

def noClock (_ : Nat) : Nat := 0

def runParse (patience : Nat) (grammar : String) (input tokens start : Option String)
    (format : ReportFormat) (maxSteps : Nat) (stats : Bool) : Option Outcome :=
  match loadGrammar files grammar with
  | .error error => some (.ofError error)
  | .ok g =>
    let warnings := g.warnings.map (·.message)
    match inputTokens files input tokens with
    | .error error => some ((Outcome.ofError error).withWarnings warnings)
    | .ok tokens =>
      (g.parse? tokens start (limitsOf maxSteps) noClock patience).map fun result ↦
        (Outcome.ofResult g format stats result).withWarnings warnings

def runCheck (grammar : String) : Outcome :=
  match loadGrammar files grammar with
  | .error error => .ofError error
  | .ok g =>
    Outcome.withWarnings (g.warnings.map (·.message)) {
      exitCode := 0
      output := s!"{g.rules.size} rules, entry point '{g.ruleName g.entryPoint}'\n" ++ g.render }

def runTokenize (input : String) (patterns : List String) : Outcome :=
  match readFile files input with
  | .error error => .ofError error
  | .ok source =>
    match if patterns.isEmpty then Tokenizer.standard else Tokenizer.ofPatterns patterns with
    | .error error => .ofError (.tokenizer error)
    | .ok t =>
      Outcome.withWarnings ((t.unmatched source).map (·.message)) {
        exitCode := 0
        output := renderTokenLines (t.tokenize source) }

def runDemo (patience : Nat) (format : ReportFormat) (stats : Bool) : Option Outcome :=
  match Demo.grammar with
  | .error error => some (.ofError (.grammar error))
  | .ok g =>
    match standardTokenizer with
    | .error error => some (.ofError error)
    | .ok t =>
      (g.parse? (t.tokenizeFlat Demo.program) none {} noClock patience).map
        (Outcome.ofResult g format stats)

/-- The outcome of a command, or `none` if a parse without a limit takes too many steps. -/
def run (patience : Nat) : Command → Option Outcome
  | .parse grammar input tokens start format maxSteps stats =>
    runParse files patience grammar input tokens start format maxSteps stats
  | .check grammar => some (runCheck files grammar)
  | .tokenize input patterns => some (runTokenize files input patterns)
  | .demo format stats => runDemo patience format stats

def versionText : String := "retro 0.3.0\n"

def UsageError.outcome : UsageError → Outcome
  | .displayHelp command => { exitCode := 0, output := helpText command }
  | .displayVersion => { exitCode := 0, output := versionText }
  | error => { exitCode := 2, errorLines := [s!"usage error: {error.name}"] }

def perform (patience : Nat) (args : List String) : Option Outcome :=
  match readCommand args with
  | .error error => some error.outcome
  | .ok command => run files patience command

end TopDown.CommandLine
