import TopDown.Regex.CharSet

namespace TopDown

inductive Regex.Look where
  | textStart | textEnd
  | lineStart | lineEnd
  /-- Line ends are `\r`, `\n`, and `\r\n` as one. -/
  | crlfLineStart | crlfLineEnd
  | wordBoundary | notWordBoundary
  | wordStart | wordEnd | wordStartHalf | wordEndHalf
  deriving DecidableEq, Repr

/-- The rounds of a repetition: at least `min`, and at most `max` if there is one. -/
structure Regex.Rounds where
  min : Nat
  max : Option Nat
  greedy : Bool := true
  deriving DecidableEq, Repr

inductive Regex where
  | empty
  | set (s : Regex.CharSet)
  | look (l : Regex.Look) (word : Regex.CharSet)
  | seq (a b : Regex)
  | alt (a b : Regex)
  | repetition (a : Regex) (rounds : Regex.Rounds)
  deriving DecidableEq, Repr

namespace Regex

/-- The places of a text lie before its first character, between two, and after its last. -/
abbrev Text := Array Char

namespace Look

def before? (s : Text) (i : Nat) : Option Char :=
  if i = 0 then none else s[i - 1]?

def holds (word : CharSet) (s : Text) (i : Nat) : Look → Bool
  | .textStart => i == 0
  | .textEnd => i == s.size
  | .lineStart => i == 0 || before? s i == some '\n'
  | .lineEnd => i == s.size || s[i]? == some '\n'
  | .crlfLineStart =>
    i == 0 || before? s i == some '\n' || (before? s i == some '\r' && s[i]? != some '\n')
  | .crlfLineEnd =>
    i == s.size || s[i]? == some '\r' || (s[i]? == some '\n' && before? s i != some '\r')
  | .wordBoundary => (before? s i).any word.contains != s[i]?.any word.contains
  | .notWordBoundary => (before? s i).any word.contains == s[i]?.any word.contains
  | .wordStart => !(before? s i).any word.contains && s[i]?.any word.contains
  | .wordEnd => (before? s i).any word.contains && !s[i]?.any word.contains
  | .wordStartHalf => !(before? s i).any word.contains
  | .wordEndHalf => !s[i]?.any word.contains

end Look

/-- Puts going on before stopping if the repetition is greedy, and after it otherwise. -/
def prefer (greedy : Bool) (goOn stop : List Nat) : List Nat :=
  if greedy then goOn ++ stop else stop ++ goOn

def exactly (step : Nat → List Nat) : Nat → List Nat → List Nat
  | 0, starts => starts
  | n + 1, starts => exactly step n (starts.flatMap step).eraseDups

def atMost (step : Nat → List Nat) (greedy : Bool) : Nat → Nat → List Nat
  | 0, i => [i]
  | n + 1, i => (prefer greedy ((step i).flatMap (atMost step greedy n)) [i]).eraseDups

/--
The ends after one round or more, where a round without progress is the last one. `fuel` is more
than the number of characters left.
-/
def oneOrMore (step : Nat → List Nat) (greedy : Bool) : Nat → Nat → List Nat
  | 0, _ => []
  | fuel + 1, i =>
    ((step i).flatMap fun e ↦
      prefer greedy (if i < e then oneOrMore step greedy fuel e else []) [e]).eraseDups

/--
The places where the expression can end when it starts at `i`, each once and the preferred ones
first: the first branch of an alternative, and more rounds of a greedy repetition.
-/
def ends (s : Text) : Regex → Nat → List Nat
  | .empty, i => [i]
  | .set cs, i => if s[i]?.any cs.contains then [i + 1] else []
  | .look l word, i => if l.holds word s i then [i] else []
  | .seq a b, i => ((ends s a i).flatMap (ends s b)).eraseDups
  | .alt a b, i => (ends s a i ++ ends s b i).eraseDups
  | .repetition a ⟨min, some max, greedy⟩, i =>
    ((exactly (ends s a) min [i]).flatMap (atMost (ends s a) greedy (max - min))).eraseDups
  | .repetition a ⟨0, none, greedy⟩, i =>
    (prefer greedy (oneOrMore (ends s a) greedy (s.size + 1 - i) i) [i]).eraseDups
  | .repetition a ⟨min + 1, none, greedy⟩, i =>
    ((exactly (ends s a) min [i]).flatMap fun e ↦
      oneOrMore (ends s a) greedy (s.size + 1 - e) e).eraseDups

def literal (text : List Char) : Regex :=
  text.foldr (fun c r ↦ .seq (.set (.single c)) r) .empty

end Regex

end TopDown
