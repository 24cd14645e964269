namespace TopDown

structure TokenStream where
  input : Array String
  endMarker : String
  deriving DecidableEq, Repr

namespace TokenStream

/-- The end marker is added unless the tokens end with it. -/
def ofTokens (tokens : List String) (endMarker : String) : TokenStream where
  input := (if tokens.getLast? = some endMarker then tokens.dropLast else tokens).toArray
  endMarker

variable (s : TokenStream)

def tokens : Array String :=
  s.input.push s.endMarker

def size : Nat :=
  s.input.size + 1

def get? (i : Nat) : Option String :=
  if h : i < s.input.size then some s.input[i]
  else if i = s.input.size then some s.endMarker
  else none

end TokenStream

end TopDown
