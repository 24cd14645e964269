import TopDown.Decimal.Shortest
import TopDown.Json.Error

namespace TopDown.Json

def maxMantissa : Nat := UInt64.size - 1

/-- The digits of a number so far: the number is `mantissa * 10 ^ exponent`. -/
structure Scaled where
  mantissa : Nat
  exponent : Int
  deriving DecidableEq, Repr

/-- Divides by the greatest power of ten that a double has room for until the rest is in reach. -/
def scaleDown : Nat → Float → Nat → Float
  | 0, x, _ => x
  | fuel + 1, x, n =>
    if n ≤ 308 then x / Float.ofScientific 1 false n
    else if x == 0 then x
    else scaleDown fuel (x / 1e308) (n - 308)

def Scaled.toFloat? (s : Scaled) : Option Float :=
  let x := s.mantissa.toUInt64.toFloat
  if s.exponent < 0 then some (scaleDown s.exponent.natAbs x s.exponent.natAbs)
  else if s.exponent.toNat ≤ 308 then
    let y := x * Float.ofScientific 1 false s.exponent.toNat
    if y.isInf then none else some y
  else if x == 0 then some x
  else none

/-- Adds digits to the mantissa while it has room; `before` places them before the point. -/
def addDigits (before : Bool) : Scaled → List Char → Scaled × List Char
  | s, [] => (s, [])
  | s, c :: cs =>
    if c.isDigit then
      let mantissa := 10 * s.mantissa + (c.toNat - '0'.toNat)
      if mantissa ≤ maxMantissa then
        addDigits before ⟨mantissa, if before then s.exponent else s.exponent - 1⟩ cs
      else (s, c :: cs)
    else (s, c :: cs)

def digitCount (cs : List Char) : Nat :=
  (cs.takeWhile Char.isDigit).length

def signed (negative : Bool) (x : Float) : Found :=
  .float (Decimal.floatText (if negative then -x else x))

def floatFound (negative : Bool) (s : Scaled) (rest : List Char) :
    Except Error (Found × List Char) :=
  match s.toFloat? with
  | some x => .ok (signed negative x, rest)
  | none => .error .malformed

def isExponentMark (c : Char) : Bool :=
  c == 'e' || c == 'E'

def exponentPart (negative : Bool) (s : Scaled) (cs : List Char) :
    Except Error (Found × List Char) :=
  let (down, cs) := match cs with
    | '+' :: cs => (false, cs)
    | '-' :: cs => (true, cs)
    | cs => (false, cs)
  match cs with
  | [] => .error .unfinished
  | c :: _ =>
    if !c.isDigit then .error .malformed
    else
      let digits := cs.takeWhile Char.isDigit
      let rest := cs.dropWhile Char.isDigit
      let n := digits.foldl (fun n d ↦ 10 * n + (d.toNat - '0'.toNat)) 0
      if n < Nat.pow 2 31 then
        floatFound negative ⟨s.mantissa, if down then s.exponent - n else s.exponent + n⟩ rest
      else if s.mantissa ≠ 0 && !down then .error .malformed
      else .ok (signed negative 0, rest)

def numberEnd (negative : Bool) (s : Scaled) (cs : List Char) : Except Error (Found × List Char) :=
  match cs with
  | c :: rest =>
    if isExponentMark c then exponentPart negative s rest else floatFound negative s cs
  | [] => floatFound negative s cs

def fractionPart (negative : Bool) (s : Scaled) (cs : List Char) :
    Except Error (Found × List Char) :=
  match cs with
  | [] => .error .unfinished
  | c :: _ =>
    let (more, rest) := addDigits false s cs
    if c.isDigit then numberEnd negative more (rest.dropWhile Char.isDigit)
    else .error .malformed

/-- A whole number keeps its kind if it has room in 64 bits, and zero has no sign. -/
def integerFound (negative : Bool) (n : Nat) : Found :=
  if !negative then .integer n
  else if 0 < n ∧ n ≤ Nat.pow 2 63 then .integer (-n)
  else signed true n.toUInt64.toFloat

def number (negative : Bool) (cs : List Char) : Except Error (Found × List Char) :=
  match cs with
  | [] => .error .unfinished
  | c :: after =>
    if !c.isDigit || (c == '0' && 0 < digitCount after) then .error .malformed
    else
      let (s, rest) := addDigits true ⟨0, 0⟩ cs
      let extra := digitCount rest
      let s : Scaled := ⟨s.mantissa, extra⟩
      match rest.drop extra with
      | '.' :: rest => fractionPart negative s rest
      | c :: rest =>
        if isExponentMark c then exponentPart negative s rest
        else if extra = 0 then .ok (integerFound negative s.mantissa, c :: rest)
        else floatFound negative s (c :: rest)
      | [] =>
        if extra = 0 then .ok (integerFound negative s.mantissa, [])
        else floatFound negative s []

end TopDown.Json
