namespace TopDown.Text

/-- A line ends at `\n` or `\r\n`, and the end of the text opens no further line. -/
def splitLines : List Char → List (List Char)
  | [] => []
  | '\n' :: cs => [] :: splitLines cs
  | '\r' :: '\n' :: cs => [] :: splitLines cs
  | c :: cs =>
    match splitLines cs with
    | [] => [[c]]
    | line :: lines => (c :: line) :: lines

def unlines (lines : List String) : String :=
  String.join (lines.map (· ++ "\n"))

end TopDown.Text
