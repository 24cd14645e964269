import TopDown.Unicode.CaseFolding
import TopDown.Unicode.Property

namespace TopDown.Regex

inductive Property where
  | any | ascii | assigned
  | alphabetic | lowercase | uppercase
  | blank | digit | word
  | category (group : List Unicode.Category)
  | table (t : Unicode.RangeTable)
  deriving DecidableEq, Repr

namespace Property

def holds : Property → Char → Bool
  | .any, _ => true
  | .ascii, c => c.toNat < 128
  | .assigned, c => !Unicode.Category.unassigned.contains c
  | .alphabetic, c => Unicode.isAlphabetic c
  | .lowercase, c => Unicode.isLowercase c
  | .uppercase, c => Unicode.isUppercase c
  | .blank, c => Unicode.isBlank c
  | .digit, c => Unicode.isDigit c
  | .word, c => Unicode.isWord c
  | .category group, c => group.any (·.contains c)
  | .table t, c => t.contains c

end Property

inductive CharSet where
  | empty
  | range (low high : Char)
  | property (p : Property)
  | union (a b : CharSet)
  | inter (a b : CharSet)
  | compl (a : CharSet)
  /-- The characters that differ from a member of `a` in case only. -/
  | folded (a : CharSet)
  | foldedAscii (a : CharSet)
  deriving DecidableEq, Repr

namespace CharSet

def asciiCaseVariants (c : Char) : List Char :=
  [c, c.toLower, c.toUpper]

def contains : CharSet → Char → Bool
  | .empty, _ => false
  | .range low high, c => low ≤ c && c ≤ high
  | .property p, c => p.holds c
  | .union a b, c => a.contains c || b.contains c
  | .inter a b, c => a.contains c && b.contains c
  | .compl a, c => !a.contains c
  | .folded a, c => (Unicode.caseVariants c).any a.contains
  | .foldedAscii a, c => (asciiCaseVariants c).any a.contains

def single (c : Char) : CharSet :=
  .range c c

def ofRanges (ranges : List (Char × Char)) : CharSet :=
  ranges.foldr (fun r set ↦ .union (.range r.1 r.2) set) .empty

def ofTable (table : Unicode.RangeTable) : CharSet :=
  .property (.table table)

def ofPoints (ranges : List (Nat × Nat)) : CharSet :=
  ofTable { ranges }

def ofCategories (group : List Unicode.Category) : CharSet :=
  .property (.category group)

def anyOf (sets : List CharSet) : CharSet :=
  sets.foldr .union .empty

def sdiff (a b : CharSet) : CharSet :=
  .inter a (.compl b)

def symmDiff (a b : CharSet) : CharSet :=
  .union (sdiff a b) (sdiff b a)

def notLineFeed : CharSet :=
  .compl (single '\n')

def notLineBreak : CharSet :=
  .compl (.union (single '\n') (single '\r'))

def asciiDigit : CharSet := .range '0' '9'

def asciiHexDigit : CharSet :=
  ofRanges [('0', '9'), ('A', 'F'), ('a', 'f')]

def asciiWord : CharSet :=
  ofRanges [('0', '9'), ('A', 'Z'), ('_', '_'), ('a', 'z')]

def asciiBlank : CharSet :=
  ofRanges [('\t', '\r'), (' ', ' ')]

def ofClassName? : String → Option CharSet
  | "alnum" => some (ofRanges [('0', '9'), ('A', 'Z'), ('a', 'z')])
  | "alpha" => some (ofRanges [('A', 'Z'), ('a', 'z')])
  | "ascii" => some (.range '\x00' '\x7f')
  | "blank" => some (ofRanges [('\t', '\t'), (' ', ' ')])
  | "cntrl" => some (ofRanges [('\x00', '\x1f'), ('\x7f', '\x7f')])
  | "digit" => some asciiDigit
  | "graph" => some (.range '!' '~')
  | "lower" => some (.range 'a' 'z')
  | "print" => some (.range ' ' '~')
  | "punct" => some (ofRanges [('!', '/'), (':', '@'), ('[', '\x60'), ('\x7b', '~')])
  | "space" => some asciiBlank
  | "upper" => some (.range 'A' 'Z')
  | "word" => some asciiWord
  | "xdigit" => some asciiHexDigit
  | _ => none

end CharSet

end TopDown.Regex
