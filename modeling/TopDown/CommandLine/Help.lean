import TopDown.CommandLine.Command
import TopDown.Text.Lines
import TopDown.Text.Padding

namespace TopDown.CommandLine

def OptionSpec.synopsis (option : OptionSpec) : String :=
  let short := match option.short with
    | some c => String.ofList ['-', c, ',', ' ']
    | none => "    "
  short ++ "--" ++ option.long ++
    if takesValue option.kind then " <" ++ option.valueName ++ ">" else ""

/-- Rows of two columns under a heading, the first as wide as its longest entry. -/
def helpSection (heading : String) (rows : List (String × String)) : List String :=
  let width := rows.foldl (fun w row ↦ max w row.1.length) 0
  heading :: rows.map fun row ↦ "  " ++ Text.padRight width row.1 ++ "  " ++ row.2

def optionSection (options : List OptionSpec) : List String :=
  helpSection "Options:" (options.map fun option ↦ (option.synopsis, option.about))

def helpPage (about usage : String) (sections : List (List String)) : String :=
  Text.unlines ([about, "", "Usage: retro " ++ usage] ++ sections.flatMap ("" :: ·))

def commandAbout : String → String
  | "parse" => "Parse a token sequence and print the configuration trace"
  | "check" => "Build a grammar and report its warnings"
  | "tokenize" => "Split a source file into tokens, one line of tokens per source line"
  | "demo" => "Parse the bundled demo program with the demo grammar"
  | "help" => "Print this message or the help of the given subcommand(s)"
  | _ => "Run backtracking parses over JSON grammars and print their traces"

def helpText (command : String) : String :=
  let page := helpPage (commandAbout command)
  match command with
  | "parse" => page "parse [OPTIONS] --grammar <GRAMMAR>" [optionSection parseOptions]
  | "check" => page "check --grammar <GRAMMAR>" [optionSection checkOptions]
  | "tokenize" => page "tokenize [OPTIONS] --input <INPUT>" [optionSection tokenizeOptions]
  | "demo" => page "demo [OPTIONS]" [optionSection demoOptions]
  | "help" =>
    page "help [COMMAND]..."
      [helpSection "Arguments:" [("[COMMAND]...", "Print help for the subcommand(s)")]]
  | _ =>
    page "<COMMAND>"
      [helpSection "Commands:" (commandNames.map fun name ↦ (name, commandAbout name)),
        helpSection "Options:" [("-h, --help", "Print help"), ("-V, --version", "Print version")]]

end TopDown.CommandLine
