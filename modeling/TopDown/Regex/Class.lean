import TopDown.Regex.Escape
import TopDown.Regex.Nesting

namespace TopDown.Regex

namespace Parser

inductive SetOperator where
  | intersection | difference | symmetricDifference
  deriving DecidableEq, Repr

/-- An open bracket: the operand before the last operator, and the members since. -/
structure ClassFrame where
  negated : Bool
  left : Option (Nested CharSet × SetOperator) := none
  members : CharSet := .empty
  depths : List Nat := []
  deriving DecidableEq, Repr

namespace ClassFrame

def add (frame : ClassFrame) (s : Nested CharSet) : ClassFrame :=
  { frame with members := .union frame.members s.value, depths := s.depth :: frame.depths }

/-- The operators bind from the left, and their operands hold all cases if case is ignored. -/
def total (flags : Flags) (frame : ClassFrame) : Nested CharSet :=
  match frame.left with
  | none => ⟨frame.members, rowDepth frame.depths⟩
  | some (left, operator) =>
    let a := flags.fold left.value
    let b := flags.fold frame.members
    let s := match operator with
      | .intersection => .inter a b
      | .difference => .sdiff a b
      | .symmetricDifference => .symmDiff a b
    ⟨s, max left.depth (rowDepth frame.depths) + 1⟩

def applyOperator (flags : Flags) (frame : ClassFrame) (operator : SetOperator) : ClassFrame :=
  { frame with left := some (frame.total flags, operator), members := .empty, depths := [] }

def close (flags : Flags) (frame : ClassFrame) : Except SyntaxError (Nested CharSet) :=
  let total := frame.total flags
  (flags.negate frame.negated (flags.fold total.value)).map fun s ↦ ⟨s, total.depth + 1⟩

end ClassFrame

/-- Hyphens right after the opening bracket are members, and without one a closing bracket is. -/
def leadingMembers (flags : Flags) (frame : ClassFrame) (cs : List Char) :
    Except SyntaxError (ClassFrame × List Char) :=
  match spanSkipping flags (· == '-') cs with
  | (_, []) => .error .unclosedClass
  | (hyphens, c :: rest) =>
    if hyphens.isEmpty ∧ c = ']' then .ok (frame.add ⟨.single ']', 0⟩, rest)
    else .ok (hyphens.foldl (fun frame c ↦ frame.add ⟨.single c, 0⟩) frame, c :: rest)

def openClass (flags : Flags) (cs : List Char) : Except SyntaxError (ClassFrame × List Char) :=
  match skipBlanks flags cs with
  | [] => .error .unclosedClass
  | c :: rest =>
    if c = '^' then leadingMembers flags { negated := true } rest
    else leadingMembers flags { negated := false } (c :: rest)

def classOfName? (flags : Flags) (negated : Bool) (cs : List Char) :
    Option (Except SyntaxError CharSet × List Char) :=
  match splitAtChar? ':' cs with
  | some (name, c :: rest) =>
    if c = ']' then
      (CharSet.ofClassName? (String.ofList name)).map fun s ↦
        (flags.negate negated (flags.fold s), rest)
    else none
  | _ => none

def namedClass? (flags : Flags) (cs : List Char) :
    Option (Except SyntaxError CharSet × List Char) :=
  match cs with
  | ':' :: '^' :: rest => classOfName? flags true rest
  | ':' :: rest => classOfName? flags false rest
  | _ => none

def classAtom (flags : Flags) (cs : List Char) : Except SyntaxError (Atom × List Char) :=
  match cs with
  | [] => .error .unclosedClass
  | c :: rest => if c = '\\' then escape flags rest else .ok (.literal c, rest)

def classMember (flags : Flags) : Atom → Except SyntaxError CharSet
  | .literal c => if flags.unicode || c.toNat < 128 then .ok (.single c) else .error .beyondAscii
  | .set s => .ok s
  | .look _ => .error .badClassEscape

def rangeOfAtoms (flags : Flags) : Atom → Atom → Except SyntaxError CharSet
  | .literal low, .literal high =>
    if high < low then .error .badRange
    else if !flags.unicode && high.toNat ≥ 128 then .error .beyondAscii
    else .ok (.range low high)
  | _, _ => .error .badRange

def classRange (flags : Flags) (cs : List Char) : Except SyntaxError (CharSet × List Char) := do
  let (first, rest) ← classAtom flags cs
  let rest := skipBlanks flags rest
  let single : Except SyntaxError (CharSet × List Char) := do
    return (← classMember flags first, rest)
  match rest with
  | [] => throw .unclosedClass
  | c :: after =>
    if c ≠ '-' then single
    else match skipBlanks flags after with
      | [] => throw .unclosedClass
      | c :: after =>
        if c = ']' ∨ c = '-' then single
        else
          let (last, rest) ← classAtom flags (c :: after)
          return (← rangeOfAtoms flags first last, rest)

/-- A class is read inside `frame`, which lies inside the brackets of `outer`. -/
structure ClassState where
  frame : ClassFrame
  outer : List ClassFrame := []
  deriving DecidableEq, Repr

/-- An operator is one character written twice, the first time as `c`. -/
def setOperator? (c : Char) (cs : List Char) : Option (SetOperator × List Char) :=
  match cs with
  | [] => none
  | d :: rest =>
    if c ≠ d then none
    else match c with
      | '&' => some (.intersection, rest)
      | '-' => some (.difference, rest)
      | '~' => some (.symmetricDifference, rest)
      | _ => none

/-- Takes one part of a class off the text; the result is the whole class once it is closed. -/
def classStep (flags : Flags) (state : ClassState) (cs : List Char) :
    Except SyntaxError ((ClassState ⊕ Nested CharSet) × List Char) :=
  match cs with
  | [] => .error .unclosedClass
  | c :: rest =>
    if c = '[' then
      match namedClass? flags rest with
      | some (s, rest) => do
        return (.inl { state with frame := state.frame.add ⟨← s, 0⟩ }, rest)
      | none => do
        let (frame, rest) ← openClass flags rest
        return (.inl ⟨frame, state.frame :: state.outer⟩, rest)
    else if c = ']' then do
      let s ← state.frame.close flags
      match state.outer with
      | [] => return (.inr s, rest)
      | frame :: outer => return (.inl ⟨frame.add s, outer⟩, rest)
    else match setOperator? c rest with
      | some (operator, rest) =>
        .ok (.inl { state with frame := state.frame.applyOperator flags operator }, rest)
      | none => do
        let (s, rest) ← classRange flags cs
        return (.inl { state with frame := state.frame.add ⟨s, 0⟩ }, rest)

def classLoop (flags : Flags) (state : ClassState) (cs : List Char) :
    Except SyntaxError (Nested CharSet × List Char) :=
  match classStep flags state (skipBlanks flags cs) with
  | .error e => .error e
  | .ok (.inr s, rest) => .ok (s, rest)
  | .ok (.inl state, rest) =>
    if rest.length < cs.length then classLoop flags state rest else .error .unclosedClass
termination_by cs.length

def bracketClass (flags : Flags) (cs : List Char) :
    Except SyntaxError (Nested CharSet × List Char) := do
  let (frame, rest) ← openClass flags cs
  classLoop flags ⟨frame, []⟩ rest

end Parser

end TopDown.Regex
