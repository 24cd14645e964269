namespace TopDown.Text

def fraction : Nat → Nat → String
  | 0, _ => ""
  | digits + 1, part =>
    if part = 0 then ""
    else toString (part / Nat.pow 10 digits) ++ fraction digits (part % Nat.pow 10 digits)

def decimal (digits n : Nat) : String :=
  let part := fraction digits (n % Nat.pow 10 digits)
  toString (n / Nat.pow 10 digits) ++ if part.isEmpty then "" else "." ++ part

def duration (nanoseconds : Nat) : String :=
  if nanoseconds < 1000 then toString nanoseconds ++ "ns"
  else if nanoseconds < 1000000 then decimal 3 nanoseconds ++ "µs"
  else if nanoseconds < 1000000000 then decimal 6 nanoseconds ++ "ms"
  else decimal 9 nanoseconds ++ "s"

end TopDown.Text
