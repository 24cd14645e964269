namespace TopDown.Json

inductive Value where
  | null
  | bool (value : Bool)
  | number (value : Nat)
  | string (value : String)
  | array (items : List Value)
  | object (fields : List (String × Value))
  deriving Repr

def hexDigit (n : Nat) : Char :=
  if n < 10 then Char.ofNat ('0'.toNat + n) else Char.ofNat ('a'.toNat + (n - 10))

/-- Quotation marks, backslashes and control codes are escaped, and all else stands for itself. -/
def escapeChar (c : Char) : List Char :=
  match c with
  | '"' => ['\\', '"']
  | '\\' => ['\\', '\\']
  | '\x08' => ['\\', 'b']
  | '\x0c' => ['\\', 'f']
  | '\n' => ['\\', 'n']
  | '\r' => ['\\', 'r']
  | '\t' => ['\\', 't']
  | c =>
    if c < ' ' then ['\\', 'u', '0', '0', hexDigit (c.toNat / 16), hexDigit (c.toNat % 16)]
    else [c]

def quote (s : String) : String :=
  String.ofList ('"' :: s.toList.flatMap escapeChar ++ ['"'])

def newLine (level : Nat) : String :=
  String.ofList ('\n' :: List.replicate (2 * level) ' ')

/-- Items between brackets, each on a line of its own one level further in. -/
def bracketed (opening closing : String) (level : Nat) (items : List String) : String :=
  if items.isEmpty then opening ++ closing
  else
    opening ++ ",".intercalate (items.map (newLine (level + 1) ++ ·)) ++ newLine level ++ closing

namespace Value

mutual

def renderAt (level : Nat) : Value → String
  | .null => "null"
  | .bool value => if value then "true" else "false"
  | .number value => toString value
  | .string value => quote value
  | .array items => bracketed "[" "]" level (renderItems (level + 1) items)
  | .object fields => bracketed "\x7b" "\x7d" level (renderFields (level + 1) fields)

def renderItems (level : Nat) : List Value → List String
  | [] => []
  | item :: items => renderAt level item :: renderItems level items

def renderFields (level : Nat) : List (String × Value) → List String
  | [] => []
  | (name, value) :: fields =>
    (quote name ++ ": " ++ renderAt level value) :: renderFields level fields

end

def render (value : Value) : String :=
  value.renderAt 0

def strings (items : List String) : Value :=
  .array (items.map .string)

end Value

end TopDown.Json
