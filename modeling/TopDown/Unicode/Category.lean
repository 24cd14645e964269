import TopDown.Unicode.Letter
import TopDown.Unicode.Mark
import TopDown.Unicode.Number
import TopDown.Unicode.Punctuation
import TopDown.Unicode.Sign
import TopDown.Unicode.Separator
import TopDown.Unicode.Control

namespace TopDown.Unicode

inductive Category where
  | uppercaseLetter | lowercaseLetter | titlecaseLetter | modifierLetter | otherLetter
  | nonspacingMark | spacingMark | enclosingMark
  | decimalNumber | letterNumber | otherNumber
  | connectorPunctuation | dashPunctuation | openPunctuation | closePunctuation
  | initialPunctuation | finalPunctuation | otherPunctuation
  | mathSymbol | currencySymbol | modifierSymbol | otherSymbol
  | spaceSeparator | lineSeparator | paragraphSeparator
  | control | format | privateUse | unassigned
  deriving DecidableEq, Repr

namespace Category

def table : Category → RangeTable
  | .uppercaseLetter => uppercaseLetterTable
  | .lowercaseLetter => lowercaseLetterTable
  | .titlecaseLetter => titlecaseLetterTable
  | .modifierLetter => modifierLetterTable
  | .otherLetter => otherLetterTable
  | .nonspacingMark => nonspacingMarkTable
  | .spacingMark => spacingMarkTable
  | .enclosingMark => enclosingMarkTable
  | .decimalNumber => decimalNumberTable
  | .letterNumber => letterNumberTable
  | .otherNumber => otherNumberTable
  | .connectorPunctuation => connectorPunctuationTable
  | .dashPunctuation => dashPunctuationTable
  | .openPunctuation => openPunctuationTable
  | .closePunctuation => closePunctuationTable
  | .initialPunctuation => initialPunctuationTable
  | .finalPunctuation => finalPunctuationTable
  | .otherPunctuation => otherPunctuationTable
  | .mathSymbol => mathSymbolTable
  | .currencySymbol => currencySymbolTable
  | .modifierSymbol => modifierSymbolTable
  | .otherSymbol => otherSymbolTable
  | .spaceSeparator => spaceSeparatorTable
  | .lineSeparator => lineSeparatorTable
  | .paragraphSeparator => paragraphSeparatorTable
  | .control => controlTable
  | .format => formatTable
  | .privateUse => privateUseTable
  | .unassigned => unassignedTable

def contains (category : Category) (c : Char) : Bool :=
  category.table.contains c

def casedLetter : List Category :=
  [.uppercaseLetter, .lowercaseLetter, .titlecaseLetter]

def letter : List Category :=
  casedLetter ++ [.modifierLetter, .otherLetter]

def mark : List Category :=
  [.nonspacingMark, .spacingMark, .enclosingMark]

def number : List Category :=
  [.decimalNumber, .letterNumber, .otherNumber]

def punctuation : List Category :=
  [.connectorPunctuation, .dashPunctuation, .openPunctuation, .closePunctuation,
    .initialPunctuation, .finalPunctuation, .otherPunctuation]

def sign : List Category :=
  [.mathSymbol, .currencySymbol, .modifierSymbol, .otherSymbol]

def separator : List Category :=
  [.spaceSeparator, .lineSeparator, .paragraphSeparator]

def other : List Category :=
  [.control, .format, .privateUse, .unassigned]

/-- Each group of categories with its names, in lower case and without `_`. -/
def names : List (List String × List Category) :=
  [(["lu", "uppercaseletter"], [.uppercaseLetter]),
    (["ll", "lowercaseletter"], [.lowercaseLetter]),
    (["lt", "titlecaseletter"], [.titlecaseLetter]),
    (["lm", "modifierletter"], [.modifierLetter]),
    (["lo", "otherletter"], [.otherLetter]),
    (["lc", "casedletter"], casedLetter),
    (["l", "letter"], letter),
    (["mn", "nonspacingmark"], [.nonspacingMark]),
    (["mc", "spacingmark"], [.spacingMark]),
    (["me", "enclosingmark"], [.enclosingMark]),
    (["m", "mark", "combiningmark"], mark),
    (["nd", "decimalnumber", "digit"], [.decimalNumber]),
    (["nl", "letternumber"], [.letterNumber]),
    (["no", "othernumber"], [.otherNumber]),
    (["n", "number"], number),
    (["pc", "connectorpunctuation"], [.connectorPunctuation]),
    (["pd", "dashpunctuation"], [.dashPunctuation]),
    (["ps", "openpunctuation"], [.openPunctuation]),
    (["pe", "closepunctuation"], [.closePunctuation]),
    (["pi", "initialpunctuation"], [.initialPunctuation]),
    (["pf", "finalpunctuation"], [.finalPunctuation]),
    (["po", "otherpunctuation"], [.otherPunctuation]),
    (["p", "punctuation", "punct"], punctuation),
    (["sm", "mathsymbol"], [.mathSymbol]),
    (["sc", "currencysymbol"], [.currencySymbol]),
    (["sk", "modifiersymbol"], [.modifierSymbol]),
    (["so", "othersymbol"], [.otherSymbol]),
    (["s", "symbol"], sign),
    (["zs", "spaceseparator"], [.spaceSeparator]),
    (["zl", "lineseparator"], [.lineSeparator]),
    (["zp", "paragraphseparator"], [.paragraphSeparator]),
    (["z", "separator"], separator),
    (["cc", "control", "cntrl"], [.control]),
    (["cf", "format"], [.format]),
    (["co", "privateuse"], [.privateUse]),
    (["cn", "unassigned"], [.unassigned]),
    (["c", "other"], other)]

def ofName? (name : String) : Option (List Category) :=
  (names.find? (·.1.contains name)).map (·.2)

end Category

end TopDown.Unicode
