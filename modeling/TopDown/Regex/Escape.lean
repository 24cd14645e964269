import TopDown.Regex.Flags
import TopDown.Regex.PropertyName

namespace TopDown.Regex

namespace Parser

/-- Skips blanks, and comments from `#` to the end of the line. -/
def skipBlanksAux : Bool → List Char → List Char
  | _, [] => []
  | true, c :: cs => skipBlanksAux (c != '\n') cs
  | false, c :: cs =>
    if Unicode.isBlank c then skipBlanksAux false cs
    else if c = '#' then skipBlanksAux true cs
    else c :: cs

def skipBlanks (flags : Flags) (cs : List Char) : List Char :=
  if flags.ignoreBlanks then skipBlanksAux false cs else cs

def spanSkippingAux (p : Char → Bool) : Bool → List Char → List Char × List Char
  | _, [] => ([], [])
  | true, c :: cs => spanSkippingAux p (c != '\n') cs
  | false, c :: cs =>
    if Unicode.isBlank c then spanSkippingAux p false cs
    else if c = '#' then spanSkippingAux p true cs
    else if p c then
      let (taken, rest) := spanSkippingAux p false cs
      (c :: taken, rest)
    else ([], c :: cs)

/--
The characters up to the first one without `p`, and the text from there on. Blanks and comments
between the characters are dropped where these are skipped.
-/
def spanSkipping (flags : Flags) (p : Char → Bool) (cs : List Char) : List Char × List Char :=
  if flags.ignoreBlanks then spanSkippingAux p false cs else (cs.takeWhile p, cs.dropWhile p)

def isMeta (c : Char) : Bool :=
  "\\.+*?()|[]\x7b\x7d^$#&-~".toList.contains c

/-- A backslash may stand before any ASCII character but letters, digits and angle brackets. -/
def isEscapable (c : Char) : Bool :=
  isMeta c || (c.toNat < 128 && !c.isAlphanum && c != '<' && c != '>')

inductive Atom where
  | literal (c : Char)
  | set (s : CharSet)
  | look (l : Look)
  deriving DecidableEq, Repr

def hexValue? (c : Char) : Option Nat :=
  if c.isDigit then some (c.toNat - '0'.toNat)
  else if 'a' ≤ c ∧ c ≤ 'f' then some (c.toNat - 'a'.toNat + 10)
  else if 'A' ≤ c ∧ c ≤ 'F' then some (c.toNat - 'A'.toNat + 10)
  else none

def charOfHex (digits : List Nat) : Except SyntaxError Char :=
  let n := digits.foldl (fun n d ↦ 16 * n + d) 0
  if n.isValidChar then .ok (Char.ofNat n) else .error .badHexadecimal

def hexDigits (flags : Flags) : Nat → List Char → Except SyntaxError (List Nat × List Char)
  | 0, cs => .ok ([], cs)
  | n + 1, cs =>
    match skipBlanks flags cs with
    | [] => .error .noEnd
    | c :: rest =>
      match hexValue? c with
      | none => .error .badHexadecimal
      | some d => (hexDigits flags n rest).map fun r ↦ (d :: r.1, r.2)

def bracedHexDigits (flags : Flags) (cs : List Char) : Except SyntaxError (List Nat × List Char) :=
  match spanSkipping flags (fun c ↦ (hexValue? c).isSome) cs with
  | (_, []) => .error .noEnd
  | (digits, c :: rest) =>
    if c = '\x7d' then .ok (digits.filterMap hexValue?, rest) else .error .badHexadecimal

/-- The character after `\x`, `\u` or `\U`, where `width` is the number of digits without braces. -/
def hexadecimal (flags : Flags) (width : Nat) (cs : List Char) :
    Except SyntaxError (Char × List Char) :=
  match skipBlanks flags cs with
  | [] => .error .noEnd
  | c :: rest =>
    if c = '\x7b' then do
      let (digits, rest) ← bracedHexDigits flags rest
      if digits.isEmpty then throw .badHexadecimal
      return (← charOfHex digits, rest)
    else do
      let (digits, rest) ← hexDigits flags width (c :: rest)
      return (← charOfHex digits, rest)

def decimal (flags : Flags) (cs : List Char) : Except SyntaxError (Option Nat × List Char) :=
  let (ds, rest) := spanSkipping flags Char.isDigit (cs.dropWhile Unicode.isBlank)
  let rest := skipBlanks flags (rest.dropWhile Unicode.isBlank)
  if ds.isEmpty then .ok (none, rest)
  else
    let n := ds.foldl (fun n d ↦ 10 * n + (d.toNat - '0'.toNat)) 0
    if n < UInt32.size then .ok (some n, rest) else .error .badRounds

def splitAtChar? (stop : Char) (cs : List Char) : Option (List Char × List Char) :=
  match cs.dropWhile (· != stop) with
  | [] => none
  | _ :: rest => some (cs.takeWhile (· != stop), rest)

def splitAtPair? (a b : Char) : List Char → Option (List Char × List Char)
  | c :: d :: cs =>
    if c = a ∧ d = b then some ([], cs)
    else (splitAtPair? a b (d :: cs)).map fun r ↦ (c :: r.1, r.2)
  | _ => none

/-- The set between the braces of `\p`, and whether it is negated there. -/
def bracedProperty (name : List Char) : Except SyntaxError (CharSet × Bool) :=
  let (members?, negated) :=
    match splitAtPair? '!' '=' name with
    | some (name, value) => (CharSet.ofPropertyName? name (some value), true)
    | none =>
      match (splitAtChar? ':' name).or (splitAtChar? '=' name) with
      | some (name, value) => (CharSet.ofPropertyName? name (some value), false)
      | none => (CharSet.ofPropertyName? name none, false)
  match members? with
  | some members => .ok (members, negated)
  | none => .error .badClassName

def propertyClass (flags : Flags) (negated : Bool) (cs : List Char) :
    Except SyntaxError (CharSet × List Char) :=
  match skipBlanks flags cs with
  | [] => .error .noEnd
  | c :: rest => do
    if !flags.unicode then throw .beyondAscii
    let ((members, inner), rest) ←
      if c = '\x7b' then
        match spanSkipping flags (· != '\x7d') rest with
        | (_, []) => throw .noEnd
        | (name, _ :: rest) => pure (← bracedProperty name, rest)
      else
        match CharSet.ofPropertyName? [c] none with
        | none => throw .badClassName
        | some members => pure ((members, false), rest)
    return (← flags.negate (negated != inner) (flags.fold members), rest)

/--
The word boundary after `\b`, such as `\x7bstart\x7d`. Braces that open with another character than
a letter or `-` are left to be read as a number of rounds.
-/
def wordBoundary (flags : Flags) (cs : List Char) : Except SyntaxError (Look × List Char) :=
  match cs with
  | '\x7b' :: rest =>
    let isNameChar (c : Char) : Bool := c.isAlpha || c == '-'
    match skipBlanks flags rest with
    | [] => .error .badWordBoundary
    | c :: _ =>
      if !isNameChar c then .ok (.wordBoundary, cs)
      else
        match spanSkipping flags isNameChar rest with
        | (_, []) => .error .badWordBoundary
        | (name, c :: rest) =>
          if c != '\x7d' then .error .badWordBoundary
          else match String.ofList name with
            | "start" => .ok (.wordStart, rest)
            | "end" => .ok (.wordEnd, rest)
            | "start-half" => .ok (.wordStartHalf, rest)
            | "end-half" => .ok (.wordEndHalf, rest)
            | _ => .error .badWordBoundary
  | _ => .ok (.wordBoundary, cs)

def escape (flags : Flags) (cs : List Char) : Except SyntaxError (Atom × List Char) :=
  match cs with
  | [] => .error .noEnd
  | c :: rest =>
    let named (negated : Bool) (s : CharSet) : Except SyntaxError (Atom × List Char) := do
      return (.set (← flags.negate negated s), rest)
    match c with
    | 'x' => do
      let (value, rest') ← hexadecimal flags 2 rest
      if !flags.unicode && value.toNat ≥ 128 && rest.head? != some '\x7b' then throw .beyondAscii
      return (.literal value, rest')
    | 'u' => (hexadecimal flags 4 rest).map fun r ↦ (.literal r.1, r.2)
    | 'U' => (hexadecimal flags 8 rest).map fun r ↦ (.literal r.1, r.2)
    | 'p' => (propertyClass flags false rest).map fun r ↦ (.set r.1, r.2)
    | 'P' => (propertyClass flags true rest).map fun r ↦ (.set r.1, r.2)
    | 'd' => named false flags.digit
    | 'D' => named true flags.digit
    | 's' => named false flags.blank
    | 'S' => named true flags.blank
    | 'w' => named false flags.word
    | 'W' => named true flags.word
    | 'a' => .ok (.literal '\x07', rest)
    | 'f' => .ok (.literal '\x0c', rest)
    | 't' => .ok (.literal '\t', rest)
    | 'n' => .ok (.literal '\n', rest)
    | 'r' => .ok (.literal '\r', rest)
    | 'v' => .ok (.literal '\x0b', rest)
    | 'A' => .ok (.look .textStart, rest)
    | 'z' => .ok (.look .textEnd, rest)
    | 'b' => (wordBoundary flags rest).map fun r ↦ (.look r.1, r.2)
    | 'B' => .ok (.look .notWordBoundary, rest)
    | '<' => .ok (.look .wordStart, rest)
    | '>' => .ok (.look .wordEnd, rest)
    | c =>
      if isEscapable c then .ok (.literal c, rest)
      else .error (if c.isDigit then .backreference else .badEscape)

end Parser

end TopDown.Regex
