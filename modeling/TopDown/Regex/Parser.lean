import TopDown.Regex.Class

namespace TopDown.Regex

namespace Parser

/-- A part of a sequence. Flags set on the way are parts too, but cannot be repeated. -/
inductive Piece where
  | part (r : Nested Regex)
  | flags
  deriving DecidableEq, Repr

namespace Piece

def regex? : Piece → Option Regex
  | .part r => some r.value
  | .flags => none

def depth : Piece → Nat
  | .part r => r.depth
  | .flags => 0

end Piece

/-- An open group: its finished branches and the parts of the last one, both latest first. -/
structure Frame where
  branches : List (Nested Regex) := []
  pieces : List Piece := []
  deriving DecidableEq, Repr

namespace Frame

def add (frame : Frame) (r : Nested Regex) : Frame :=
  { frame with pieces := .part r :: frame.pieces }

def branch (frame : Frame) : Nested Regex where
  value := match frame.pieces.filterMap Piece.regex? with
    | [] => .empty
    | last :: earlier => earlier.foldl (fun r part ↦ .seq part r) last
  depth := rowDepth (frame.pieces.map Piece.depth)

def endBranch (frame : Frame) : Frame :=
  { branches := frame.branch :: frame.branches }

def close (frame : Frame) : Nested Regex where
  value := frame.branches.foldl (fun r branch ↦ .alt branch.value r) frame.branch.value
  depth := rowDepth (frame.branch.depth :: frame.branches.map Nested.depth)

end Frame

structure State where
  frame : Frame := {}
  flags : Flags := {}
  outer : List (Frame × Flags) := []
  names : List String := []
  deriving DecidableEq, Repr

namespace State

def add (state : State) (r : Nested Regex) : State :=
  { state with frame := state.frame.add r }

def openGroup (state : State) (flags : Flags) : State :=
  { state with frame := {}, flags, outer := (state.frame, state.flags) :: state.outer }

def setFlags (state : State) (flags : Flags) : State :=
  { state with flags, frame := { state.frame with pieces := .flags :: state.frame.pieces } }

def closeGroup (state : State) : Except SyntaxError State :=
  match state.outer with
  | [] => .error .unopenedGroup
  | (frame, flags) :: outer =>
    .ok { state with frame := frame.add state.frame.close.deepen, flags, outer }

def takeOperand (state : State) : Except SyntaxError (Nested Regex × State) :=
  match state.frame.pieces with
  | .part r :: pieces => .ok (r, { state with frame := { state.frame with pieces } })
  | _ => .error .nothingToRepeat

def repeatLast (state : State) (min : Nat) (max : Option Nat) (lazy : Bool) :
    Except SyntaxError State := do
  let (r, state) ← state.takeOperand
  return state.add (r.wrap (state.flags.repetition · min max lazy))

end State

/-- Whether `?` comes next in `ahead`, and what is left of the text: `cs` if it does not. -/
def lazyMark (ahead cs : List Char) : Bool × List Char :=
  match ahead with
  | '?' :: rest => (true, rest)
  | _ => (false, cs)

def uncounted (state : State) (min : Nat) (max : Option Nat) (cs : List Char) :
    Except SyntaxError (State × List Char) := do
  let (lazy, rest) := lazyMark cs cs
  return (← state.repeatLast min max lazy, rest)

def roundsFrom (flags : Flags) (low : Nat) (cs : List Char) :
    Except SyntaxError ((Nat × Option Nat) × List Char) :=
  match cs with
  | [] => .error .badRounds
  | c :: rest =>
    if c = '\x7d' then .ok ((low, some low), rest)
    else if c ≠ ',' then .error .badRounds
    else match skipBlanks flags rest with
      | [] => .error .badRounds
      | c :: rest =>
        if c = '\x7d' then .ok ((low, none), rest)
        else do
          let (high, rest) ← decimal flags (c :: rest)
          match high, rest with
          | some high, c :: rest =>
            if c = '\x7d' ∧ low ≤ high then return ((low, some high), rest) else throw .badRounds
          | _, _ => throw .badRounds

def counted (state : State) (cs : List Char) : Except SyntaxError (State × List Char) := do
  let _ ← state.takeOperand
  let (low, rest) ← decimal state.flags (skipBlanks state.flags cs)
  let some low := low | throw .badRounds
  let ((min, max), rest) ← roundsFrom state.flags low rest
  let (lazy, rest) := lazyMark (skipBlanks state.flags rest) rest
  return (← state.repeatLast min max lazy, rest)

def isNameChar (first : Bool) (c : Char) : Bool :=
  c == '_' ||
    if first then Unicode.isAlphabetic c
    else ['.', '[', ']'].contains c || Unicode.isAlphabetic c || Unicode.isNumeric c

def groupName (state : State) (cs : List Char) : Except SyntaxError (State × List Char) :=
  match splitAtChar? '>' cs with
  | none => .error .badCaptureName
  | some ([], _) => .error .badCaptureName
  | some (first :: others, rest) =>
    let name := String.ofList (first :: others)
    if !(isNameChar true first && others.all (isNameChar false)) then .error .badCaptureName
    else if state.names.contains name then .error .duplicateCaptureName
    else .ok ({ state with names := name :: state.names }.openGroup state.flags, rest)

/-- Flags up to `:` or `)`, where `seen` holds the letters and signs before. -/
def flagLetters (flags : Flags) (value : Bool) (seen : List Char) :
    List Char → Except SyntaxError ((Flags × List Char) × List Char)
  | [] => .error .noEnd
  | c :: cs =>
    if c = ':' ∨ c = ')' then
      if seen.head? = some '-' then .error .danglingNegation else .ok ((flags, seen), c :: cs)
    else if seen.contains c then .error .duplicateFlag
    else if c = '-' then flagLetters flags false (c :: seen) cs
    else match flags.set? c value with
      | none => .error .badFlag
      | some flags => flagLetters flags value (c :: seen) cs

def flaggedGroup (state : State) (cs : List Char) : Except SyntaxError (State × List Char) := do
  let ((flags, seen), rest) ← flagLetters state.flags true [] cs
  match rest with
  | [] => throw .noEnd
  | c :: rest =>
    if c ≠ ')' then return (state.openGroup flags, rest)
    else if seen.isEmpty then throw .nothingToRepeat
    else return (state.setFlags flags, rest)

def markedGroup (state : State) (cs : List Char) : Except SyntaxError (State × List Char) :=
  match cs with
  | [] => .error .noEnd
  | c :: rest =>
    if c = '=' ∨ c = '!' then .error .lookAround
    else if c = '<' then
      if rest.head? = some '=' ∨ rest.head? = some '!' then .error .lookAround
      else groupName state rest
    else if c = 'P' ∧ rest.head? = some '<' then groupName state rest.tail
    else flaggedGroup state (c :: rest)

def group (state : State) (cs : List Char) : Except SyntaxError (State × List Char) :=
  match skipBlanks state.flags cs with
  | '?' :: rest => markedGroup state rest
  | _ => .ok (state.openGroup state.flags, cs)

def addAtom (state : State) : Atom → State
  | .literal c => state.add ⟨state.flags.literal c, 0⟩
  | .set s => state.add ⟨.set s, 0⟩
  | .look l => state.add ⟨state.flags.look l, 0⟩

def step (state : State) (c : Char) (rest : List Char) : Except SyntaxError (State × List Char) :=
  match c with
  | '(' => group state rest
  | ')' => do return (← state.closeGroup, rest)
  | '|' => .ok ({ state with frame := state.frame.endBranch }, rest)
  | '[' => do
    let (s, rest) ← bracketClass state.flags rest
    return (state.add ⟨.set s.value, s.depth⟩, rest)
  | '?' => uncounted state 0 (some 1) rest
  | '*' => uncounted state 0 none rest
  | '+' => uncounted state 1 none rest
  | '\x7b' => counted state rest
  | '\\' => do
    let (atom, rest) ← escape state.flags rest
    return (addAtom state atom, rest)
  | '.' => do return (state.add ⟨← state.flags.dot, 0⟩, rest)
  | '^' => .ok (addAtom state (.look state.flags.caret), rest)
  | '$' => .ok (addAtom state (.look state.flags.dollar), rest)
  | c => .ok (addAtom state (.literal c), rest)

def loop (state : State) (cs : List Char) : Except SyntaxError State :=
  match skipBlanks state.flags cs with
  | [] => .ok state
  | c :: rest =>
    match step state c rest with
    | .error e => .error e
    | .ok (state, rest) =>
      if rest.length < cs.length then loop state rest else .error .noEnd
termination_by cs.length

end Parser

/-- The expression in a text, however deeply its parts are nested. -/
def read (source : String) : Except SyntaxError (Nested Regex) := do
  let state ← Parser.loop {} source.toList
  if state.outer.isEmpty then return state.frame.close else throw .unclosedGroup

def parse (source : String) : Except SyntaxError Regex := do
  let r ← read source
  if nestLimit < r.depth then throw .nestedTooDeep else return r.value

end TopDown.Regex
