import TopDown.CommandLine.Arguments
import TopDown.Report

namespace TopDown.CommandLine

inductive Command where
  | parse (grammar : String) (input tokens start : Option String) (format : ReportFormat)
    (maxSteps : Nat) (stats : Bool)
  | check (grammar : String)
  | tokenize (input : String) (patterns : List String)
  | demo (format : ReportFormat) (stats : Bool)
  deriving DecidableEq, Repr

def anyText (_ : String) : Except UsageError Unit :=
  .ok ()

def pathText (s : String) : Except UsageError Unit :=
  if s.isEmpty then .error .noValue else .ok ()

def formatText (s : String) : Except UsageError Unit :=
  if (ReportFormat.ofName? s).isSome then .ok () else .error .invalidValue

/-- A number of 64 bits, which may have a plus sign. -/
def count? (s : String) : Option Nat :=
  let digits := match s.toList with
    | '+' :: rest => rest
    | rest => rest
  if digits.isEmpty || !digits.all Char.isDigit then none
  else
    let n := digits.foldl (fun n d ↦ 10 * n + (d.toNat - '0'.toNat)) 0
    if n < UInt64.size then some n else none

def countText (s : String) : Except UsageError Unit :=
  if (count? s).isSome then .ok () else .error .invalidValue

def helpOption (command : String) : OptionSpec :=
  ⟨"help", some 'h', .help command, "Print help", ""⟩

def grammarOption : OptionSpec :=
  ⟨"grammar", some 'g', .single pathText, "JSON grammar file", "GRAMMAR"⟩

def formatOption : OptionSpec :=
  ⟨"format", some 'f', .single formatText, "Output format [default: table]", "FORMAT"⟩

def statsOption : OptionSpec :=
  ⟨"stats", none, .switch, "Print run metrics to stderr", ""⟩

def defaultMaxSteps : Nat := 1000000

def parseOptions : List OptionSpec :=
  [grammarOption,
    ⟨"input", some 'i', .single pathText,
      "Source file, split into tokens by the standard tokenizer", "INPUT"⟩,
    ⟨"tokens", some 't', .single anyText, "Whitespace-separated tokens, e.g. \"a a b\"", "TOKENS"⟩,
    ⟨"start", some 's', .single anyText,
      "Non-terminal to start from (default: the grammar's entry point)", "START"⟩,
    formatOption,
    ⟨"max-steps", none, .single countText,
      "Step budget; 0 disables the limit [default: " ++ toString defaultMaxSteps ++ "]",
      "MAX_STEPS"⟩,
    statsOption,
    helpOption "parse"]

def checkOptions : List OptionSpec :=
  [grammarOption, helpOption "check"]

def tokenizeOptions : List OptionSpec :=
  [⟨"input", some 'i', .single pathText, "Source file", "INPUT"⟩,
    ⟨"pattern", some 'p', .repeated,
      "Token pattern, tried in order (default: the standard patterns)", "PATTERNS"⟩,
    helpOption "tokenize"]

def demoOptions : List OptionSpec :=
  [formatOption, statsOption, helpOption "demo"]

namespace Progress

def required (p : Progress) (long : String) : Except UsageError String :=
  match p.value? long with
  | some value => .ok value
  | none => .error .missingArgument

def format (p : Progress) : ReportFormat :=
  ((p.value? "format").bind ReportFormat.ofName?).getD .table

end Progress

/-- Tokens are given or read from a file, but not both. -/
def readParse (args : List String) : Except UsageError Command := do
  let p ← readOptions parseOptions {} args
  if p.has "input" && p.has "tokens" then throw .conflict
  let grammar ← p.required "grammar"
  if !p.has "input" && !p.has "tokens" then throw .missingArgument
  let maxSteps := ((p.value? "max-steps").bind count?).getD defaultMaxSteps
  return .parse grammar (p.value? "input") (p.value? "tokens") (p.value? "start") p.format maxSteps
    (p.has "stats")

def readCheck (args : List String) : Except UsageError Command := do
  let p ← readOptions checkOptions {} args
  return .check (← p.required "grammar")

def readTokenize (args : List String) : Except UsageError Command := do
  let p ← readOptions tokenizeOptions {} args
  return .tokenize (← p.required "input") ((p.values.lookup "pattern").getD [])

def readDemo (args : List String) : Except UsageError Command := do
  let p ← readOptions demoOptions {} args
  return .demo p.format (p.has "stats")

def commandNames : List String :=
  ["parse", "check", "tokenize", "demo", "help"]

def readHelp : List String → UsageError
  | [] => .displayHelp ""
  | [name] => if commandNames.contains name then .displayHelp name else .unknownCommand
  | _ => .unknownCommand

def readGlobal (arg : List Char) : UsageError :=
  match arg with
  | '-' :: '-' :: rest =>
    let name := String.ofList (rest.takeWhile (· != '='))
    if name ≠ "help" && name ≠ "version" then .unknownArgument
    else if rest.contains '=' then .unneededValue
    else if name = "help" then .displayHelp ""
    else .displayVersion
  | '-' :: 'h' :: _ => .displayHelp ""
  | '-' :: 'V' :: _ => .displayVersion
  | '-' :: _ :: _ => .unknownArgument
  | _ => .unknownCommand

def readCommand (args : List String) : Except UsageError Command :=
  match args with
  | [] => .error .noCommand
  | "parse" :: args => readParse args
  | "check" :: args => readCheck args
  | "tokenize" :: args => readTokenize args
  | "demo" :: args => readDemo args
  | "help" :: args => .error (readHelp args)
  | "--" :: [] => .error .noCommand
  | "--" :: arg :: _ =>
    .error (if commandNames.contains arg then .unknownArgument else .unknownCommand)
  | arg :: _ => .error (readGlobal arg.toList)

end TopDown.CommandLine
