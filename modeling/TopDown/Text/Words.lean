import TopDown.Unicode.Blank

namespace TopDown.Text

/-- The words of a text, where `word` holds the characters before it, latest first. -/
def splitWordsAux : List Char → List Char → List (List Char)
  | word, [] => if word.isEmpty then [] else [word.reverse]
  | word, c :: cs =>
    if Unicode.isBlank c then
      if word.isEmpty then splitWordsAux [] cs else word.reverse :: splitWordsAux [] cs
    else splitWordsAux (c :: word) cs

def words (text : String) : List String :=
  (splitWordsAux [] text.toList).map String.ofList

end TopDown.Text
