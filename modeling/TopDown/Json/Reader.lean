import TopDown.Json.Number
import TopDown.Json.Text

namespace TopDown.Json

def mismatch (expected : String) (cs : List Char) : Error :=
  let found (f : Found) : Error := .data (.invalidType f expected)
  let word (rest : String) (f : Found) (cs : List Char) : Error :=
    match expect rest.toList cs with
    | .ok _ => found f
    | .error e => e
  let numeral (negative : Bool) (cs : List Char) : Error :=
    match number negative cs with
    | .ok (f, _) => found f
    | .error e => e
  match cs with
  | [] => .unfinished
  | 'n' :: rest => word "ull" .null rest
  | 't' :: rest => word "rue" (.boolean true) rest
  | 'f' :: rest => word "alse" (.boolean false) rest
  | '-' :: rest => numeral true rest
  | '"' :: rest =>
    match stringTail rest with
    | .ok (s, _) => found (.string (String.ofList s))
    | .error e => e
  | '[' :: _ => found .sequence
  | '\x7b' :: _ => found .map
  | c :: rest => if c.isDigit then numeral false (c :: rest) else .malformed

def readStringAs (expected : String) (cs : List Char) : Except Error (String × List Char) :=
  match skipBlanks cs with
  | '"' :: rest => (stringTail rest).map fun r ↦ (String.ofList r.1, r.2)
  | rest => .error (mismatch expected rest)

def readString (cs : List Char) : Except Error (String × List Char) :=
  readStringAs "a string" cs

def readBool (cs : List Char) : Except Error (Bool × List Char) :=
  match skipBlanks cs with
  | 't' :: rest => (expect "rue".toList rest).map fun rest ↦ (true, rest)
  | 'f' :: rest => (expect "alse".toList rest).map fun rest ↦ (false, rest)
  | rest => .error (mismatch "a boolean" rest)

def readNull (cs : List Char) : Except Error (Unit × List Char) :=
  match skipBlanks cs with
  | 'n' :: rest => (expect "ull".toList rest).map fun rest ↦ ((), rest)
  | rest => .error (mismatch "unit" rest)

def readColon (cs : List Char) : Except Error (List Char) :=
  expect [':'] (skipBlanks cs)

/--
The text of the next element of a list, or `none` at the closing bracket, which is kept. An element
after the first one needs a comma before it.
-/
def nextElement (first : Bool) (cs : List Char) : Except Error (Option (List Char)) :=
  match skipBlanks cs with
  | [] => .error .unfinished
  | ']' :: _ => .ok none
  | ',' :: rest =>
    if first then .ok (some (',' :: rest))
    else match skipBlanks rest with
      | [] => .error .unfinished
      | ']' :: _ => .error .malformed
      | rest => .ok (some rest)
  | rest => if first then .ok (some rest) else .error .malformed

def closeList (cs : List Char) : Except Error (List Char) :=
  expect [']'] (skipBlanks cs)

def readElements {α : Type} (element : List Char → Except Error (α × List Char)) (first : Bool)
    (cs : List Char) : Except Error (List α × List Char) :=
  match nextElement first cs with
  | .error e => .error e
  | .ok none => (closeList cs).map fun rest ↦ ([], rest)
  | .ok (some here) =>
    match element here with
    | .error e => .error e
    | .ok (a, rest) =>
      if rest.length < cs.length then
        (readElements element false rest).map fun r ↦ (a :: r.1, r.2)
      else .error .malformed
termination_by cs.length

def readList {α : Type} (element : List Char → Except Error (α × List Char)) (cs : List Char) :
    Except Error (List α × List Char) :=
  match skipBlanks cs with
  | '[' :: rest => readElements element true rest
  | rest => .error (mismatch "a sequence" rest)

structure Field (σ : Type) where
  name : String
  aliases : List String := []
  optional : Bool := false
  isSet : σ → Bool
  read : σ → List Char → Except Error (σ × List Char)

/-- A record, written as an object, or as a list of its fields in order. -/
structure Record (σ : Type) where
  name : String
  fields : List (Field σ)

namespace Record

variable {σ : Type}

def names (r : Record σ) : List String :=
  r.fields.flatMap fun field ↦ field.name :: field.aliases

def field? (r : Record σ) (key : String) : Option (Field σ) :=
  r.fields.find? fun field ↦ (field.name :: field.aliases).contains key

def nextKey (first : Bool) (cs : List Char) : Except Error (Option (List Char) × List Char) :=
  let key (cs : List Char) : Except Error (Option (List Char) × List Char) :=
    match cs with
    | '"' :: rest => (stringTail rest).map fun r ↦ (some r.1, r.2)
    | [] => .error .unfinished
    | _ => .error .malformed
  match skipBlanks cs with
  | [] => .error .unfinished
  | '\x7d' :: rest => .ok (none, rest)
  | ',' :: rest => if first then .error .malformed else key (skipBlanks rest)
  | rest => if first then key rest else .error .malformed

/-- A field whose key is read; a key that is unknown or comes twice is refused before its value. -/
def readField (r : Record σ) (state : σ) (key : String) (cs : List Char) :
    Except Error (σ × List Char) :=
  match r.field? key with
  | none => .error (.data (.unknownField key r.names))
  | some field =>
    if field.isSet state then .error (.data (.duplicateField field.name))
    else match readColon cs with
      | .error e => .error e
      | .ok rest => field.read state rest

def readFields (r : Record σ) (first : Bool) (state : σ) (cs : List Char) :
    Except Error (σ × List Char) :=
  match nextKey first cs with
  | .error e => .error e
  | .ok (none, rest) => .ok (state, rest)
  | .ok (some key, rest) =>
    match r.readField state (String.ofList key) rest with
    | .error e => .error e
    | .ok (state, rest) =>
      if rest.length < cs.length then readFields r false state rest else .error .malformed
termination_by cs.length

/-- Fields without keys; the list may end where all fields that are left are optional. -/
def readPositions (r : Record σ) : Nat → List (Field σ) → σ → List Char →
    Except Error (σ × List Char)
  | _, [], state, cs => (closeList cs).map fun rest ↦ (state, rest)
  | i, field :: fields, state, cs =>
    match nextElement (i == 0) cs with
    | .error e => .error e
    | .ok none =>
      if field.optional then readPositions r (i + 1) fields state cs
      else .error (.data (.invalidLength i s!"struct {r.name} with {r.fields.length} elements"))
    | .ok (some here) =>
      match field.read state here with
      | .error e => .error e
      | .ok (state, rest) => readPositions r (i + 1) fields state rest

def missing? (r : Record σ) (state : σ) : Option DataError :=
  (r.fields.find? fun field ↦ !field.optional && !field.isSet state).map
    fun field ↦ .missingField field.name

def read (r : Record σ) (state : σ) (cs : List Char) : Except Error (σ × List Char) :=
  match skipBlanks cs with
  | '[' :: rest => r.readPositions 0 r.fields state rest
  | '\x7b' :: rest =>
    match r.readFields true state rest with
    | .error e => .error e
    | .ok (state, rest) =>
      match r.missing? state with
      | some e => .error (.data e)
      | none => .ok (state, rest)
  | rest => .error (mismatch s!"struct {r.name}" rest)

end Record

def readAll {α : Type} (read : List Char → Except Error (α × List Char)) (text : String) :
    Except Error α :=
  match read text.toList with
  | .error e => .error e
  | .ok (a, rest) => if (skipBlanks rest).isEmpty then .ok a else .error .malformed

end TopDown.Json
