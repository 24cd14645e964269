import TopDown.Text.Quoted

namespace TopDown.Json

inductive Found where
  | null
  | boolean (value : Bool)
  | integer (value : Int)
  /-- A number with a fraction or an exponent, or one beyond 64 bits, as it is shown. -/
  | float (text : String)
  | string (value : String)
  | map
  | sequence
  deriving DecidableEq, Repr

def Found.describe : Found → String
  | .null => "null"
  | .boolean value => s!"boolean `{value}`"
  | .integer value => s!"integer `{value}`"
  | .float text => s!"floating point `{text}`"
  | .string value => s!"string {Text.quoted value}"
  | .map => "map"
  | .sequence => "sequence"

inductive DataError where
  | missingField (name : String)
  | unknownField (name : String) (known : List String)
  | duplicateField (name : String)
  | unknownVariant (name : String) (known : List String)
  | invalidType (found : Found) (expected : String)
  | invalidLength (length : Nat) (expected : String)
  deriving DecidableEq, Repr

def oneOf (names : List String) : String :=
  match names.map fun name ↦ s!"`{name}`" with
  | [a, b] => s!"{a} or {b}"
  | [a] => a
  | names => "one of " ++ ", ".intercalate names

def DataError.message : DataError → String
  | .missingField name => s!"missing field `{name}`"
  | .unknownField name known => s!"unknown field `{name}`, expected {oneOf known}"
  | .duplicateField name => s!"duplicate field `{name}`"
  | .unknownVariant name known => s!"unknown variant `{name}`, expected {oneOf known}"
  | .invalidType found expected => s!"invalid type: {found.describe}, expected {expected}"
  | .invalidLength length expected => s!"invalid length {length}, expected {expected}"

inductive Error where
  | malformed
  | unfinished
  /-- The text is JSON, up to the error at least, but not the data that is expected. -/
  | data (cause : DataError)
  deriving DecidableEq, Repr

end TopDown.Json
