import TopDown.Regex.Basic

namespace TopDown.Regex

inductive SyntaxError where
  | backreference
  | badCaptureName
  | badClassEscape
  | badClassName
  | badEscape
  | badFlag
  | badHexadecimal
  | badRange
  | badRounds
  | badWordBoundary
  | beyondAscii
  | danglingNegation
  | duplicateCaptureName
  | duplicateFlag
  | lookAround
  | nestedTooDeep
  | noEnd
  | nothingToRepeat
  | unclosedClass
  | unclosedGroup
  | unopenedGroup
  deriving DecidableEq, Repr

structure Flags where
  caseInsensitive : Bool := false
  multiLine : Bool := false
  dotMatchesNewline : Bool := false
  swapGreed : Bool := false
  unicode : Bool := true
  crlf : Bool := false
  ignoreBlanks : Bool := false
  deriving DecidableEq, Repr

namespace Flags

def set? (flags : Flags) (letter : Char) (value : Bool) : Option Flags :=
  match letter with
  | 'i' => some { flags with caseInsensitive := value }
  | 'm' => some { flags with multiLine := value }
  | 's' => some { flags with dotMatchesNewline := value }
  | 'U' => some { flags with swapGreed := value }
  | 'u' => some { flags with unicode := value }
  | 'R' => some { flags with crlf := value }
  | 'x' => some { flags with ignoreBlanks := value }
  | _ => none

def fold (flags : Flags) (s : CharSet) : CharSet :=
  if flags.caseInsensitive then
    if flags.unicode then .folded s else .foldedAscii s
  else s

def negate (flags : Flags) (negated : Bool) (s : CharSet) : Except SyntaxError CharSet :=
  if negated then
    if flags.unicode then .ok (.compl s) else .error .beyondAscii
  else .ok s

def literal (flags : Flags) (c : Char) : Regex :=
  .set (flags.fold (.single c))

def dot (flags : Flags) : Except SyntaxError Regex :=
  if !flags.unicode then .error .beyondAscii
  else if flags.dotMatchesNewline then .ok (.set (.property .any))
  else if flags.crlf then .ok (.set .notLineBreak)
  else .ok (.set .notLineFeed)

def caret (flags : Flags) : Regex.Look :=
  if flags.multiLine then
    if flags.crlf then .crlfLineStart else .lineStart
  else .textStart

def dollar (flags : Flags) : Regex.Look :=
  if flags.multiLine then
    if flags.crlf then .crlfLineEnd else .lineEnd
  else .textEnd

def digit (flags : Flags) : CharSet :=
  if flags.unicode then .property .digit else .asciiDigit

def blank (flags : Flags) : CharSet :=
  if flags.unicode then .property .blank else .asciiBlank

def word (flags : Flags) : CharSet :=
  if flags.unicode then .property .word else .asciiWord

def look (flags : Flags) (l : Regex.Look) : Regex :=
  .look l flags.word

/-- A `?` after a repetition asks for few rounds, or for many under the flag `U`. -/
def repetition (flags : Flags) (a : Regex) (min : Nat) (max : Option Nat) (lazy : Bool) : Regex :=
  .repetition a ⟨min, max, lazy == flags.swapGreed⟩

end Flags

end TopDown.Regex
