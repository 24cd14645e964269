namespace TopDown.CommandLine

/-- Why arguments are not carried out; asking for help or for the version is one reason. -/
inductive UsageError where
  /-- Help for a command, or for the whole program if the name is empty. -/
  | displayHelp (command : String)
  | displayVersion
  | noCommand
  | unknownCommand
  | unknownArgument
  | missingArgument
  | conflict
  | noValue
  | unneededValue
  | invalidValue
  deriving DecidableEq, Repr

namespace UsageError

def name : UsageError → String
  | .displayHelp _ => "DisplayHelp"
  | .displayVersion => "DisplayVersion"
  | .noCommand => "DisplayHelpOnMissingArgumentOrSubcommand"
  | .unknownCommand => "InvalidSubcommand"
  | .unknownArgument => "UnknownArgument"
  | .missingArgument => "MissingRequiredArgument"
  | .conflict => "ArgumentConflict"
  | .noValue => "InvalidValue"
  | .unneededValue => "TooManyValues"
  | .invalidValue => "ValueValidation"

end UsageError

inductive OptionKind where
  | help (command : String)
  | switch
  | single (check : String → Except UsageError Unit)
  | repeated

structure OptionSpec where
  long : String
  short : Option Char := none
  kind : OptionKind
  about : String
  valueName : String := ""

/-- The options recorded so far by their long names, and the last one with its values so far. -/
structure Progress where
  values : List (String × List String) := []
  waiting : Option (OptionSpec × List String) := none

namespace Progress

def has (p : Progress) (long : String) : Bool :=
  p.values.any (·.1 == long)

def set (p : Progress) (long : String) (values : List String) : Progress :=
  { p with values := p.values ++ [(long, values)] }

def append (p : Progress) (long value : String) : Progress :=
  if p.has long then
    { p with values := p.values.map fun v ↦ if v.1 = long then (v.1, v.2 ++ [value]) else v }
  else p.set long [value]

def value? (p : Progress) (long : String) : Option String :=
  (p.values.lookup long).bind List.head?

def record (p : Progress) (option : OptionSpec) (values : List String) :
    Except UsageError Progress :=
  match option.kind, values with
  | .help command, _ => .error (.displayHelp command)
  | .switch, _ => if p.has option.long then .error .conflict else .ok (p.set option.long [])
  | .single _, [] | .repeated, [] => .error .noValue
  | .single check, value :: _ =>
    if p.has option.long then .error .conflict
    else (check value).map fun _ ↦ p.set option.long [value]
  | .repeated, value :: _ => .ok (p.append option.long value)

def settle (p : Progress) : Except UsageError Progress :=
  match p.waiting with
  | none => .ok p
  | some (option, values) => { p with waiting := none }.record option values

def start (p : Progress) (option : OptionSpec) (attached : Option String) :
    Except UsageError Progress := do
  let p ← p.settle
  match option.kind, attached with
  | .single _, none | .repeated, none => return { p with waiting := some (option, []) }
  | _, some value => p.record option [value]
  | _, none => p.record option []

end Progress

def takesValue : OptionKind → Bool
  | .single _ | .repeated => true
  | .help _ | .switch => false

def readLong (options : List OptionSpec) (p : Progress) (arg : List Char) :
    Except UsageError Progress :=
  let name := arg.takeWhile (· != '=')
  let attached := match arg.dropWhile (· != '=') with
    | _ :: value => some (String.ofList value)
    | [] => none
  match options.find? (·.long == String.ofList name) with
  | none => .error .unknownArgument
  | some option =>
    if attached.isSome && !takesValue option.kind then .error .unneededValue
    else p.start option attached

/-- Options by their short names, after the hyphen; one that takes a value ends the argument. -/
def readShort (options : List OptionSpec) (p : Progress) : List Char → Except UsageError Progress
  | [] => .ok p
  | c :: cs =>
    match options.find? (·.short == some c) with
    | none => .error .unknownArgument
    | some option =>
      if takesValue option.kind then
        match cs with
        | [] => p.start option none
        | '=' :: value => p.start option (some (String.ofList value))
        | value => p.start option (some (String.ofList value))
      else do readShort options (← p.start option none) cs

/-- An argument without hyphens is the value of an option that waits without one. -/
def readValue (p : Progress) (arg : String) : Except UsageError Progress :=
  match p.waiting with
  | some (option, []) => .ok { p with waiting := some (option, [arg]) }
  | _ => .error .unknownArgument

def readOptions (options : List OptionSpec) : Progress → List String → Except UsageError Progress
  | p, [] => p.settle
  | p, arg :: args =>
    match arg.toList with
    | ['-', '-'] =>
      -- What follows would stand by itself.
      if args.isEmpty then p.settle else .error .unknownArgument
    | '-' :: '-' :: rest => do readOptions options (← readLong options p rest) args
    | '-' :: c :: rest => do readOptions options (← readShort options p (c :: rest)) args
    | _ => do readOptions options (← readValue p arg) args

end TopDown.CommandLine
