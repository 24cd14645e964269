namespace TopDown.Decimal

/-- The number `digits * 10 ^ exponent`. -/
structure Scientific where
  digits : Nat
  exponent : Int
  deriving DecidableEq, Repr

/-- The reals that round to one double, as numerators over a common denominator. -/
structure Interval where
  low : Nat
  value : Nat
  high : Nat
  denominator : Nat
  closed : Bool
  deriving DecidableEq, Repr

namespace Interval

/-- The interval of `mantissa * 2 ^ exponent`; below a power of two doubles lie twice as dense. -/
def ofBinary (mantissa : Nat) (exponent : Int) (isPower : Bool) : Interval :=
  let up := exponent.toNat
  let down := (-exponent).toNat
  let unit := Nat.pow 2 up
  { low := (4 * mantissa - if isPower then 1 else 2) * unit
    value := 4 * mantissa * unit
    high := (4 * mantissa + 2) * unit
    denominator := 4 * Nat.pow 2 down
    closed := mantissa % 2 == 0 }

def ofBits (bits : Nat) : Interval :=
  let field : Nat := bits / Nat.pow 2 52 % Nat.pow 2 11
  let fraction : Nat := bits % Nat.pow 2 52
  if field = 0 then ofBinary fraction (-1074) false
  else ofBinary (fraction + Nat.pow 2 52) (field - 1075) (fraction = 0 ∧ 1 < field)

def contains (i : Interval) (numerator denominator : Nat) : Bool :=
  let n := numerator * i.denominator
  if i.closed then i.low * denominator ≤ n && n ≤ i.high * denominator
  else i.low * denominator < n && n < i.high * denominator

/-- The multiple of `10 ^ exponent` in the interval that lies nearest to the value, if any. -/
def nearest? (i : Interval) (exponent : Int) : Option Scientific :=
  let up := Nat.pow 10 exponent.toNat
  let down := Nat.pow 10 (-exponent).toNat
  let floor := i.value * down / (i.denominator * up)
  let inside (n : Nat) : Bool := i.contains (n * up) down
  let rest := i.value * down - floor * (i.denominator * up)
  let nearer := if 2 * rest < i.denominator * up then floor
    else if 2 * rest = i.denominator * up then floor + floor % 2
    else floor + 1
  if inside nearer then some ⟨nearer, exponent⟩
  else if inside floor then some ⟨floor, exponent⟩
  else if inside (floor + 1) then some ⟨floor + 1, exponent⟩
  else none

end Interval

def Scientific.normalize : Nat → Scientific → Scientific
  | 0, s => s
  | fuel + 1, s =>
    if s.digits % 10 = 0 ∧ s.digits ≠ 0 then normalize fuel ⟨s.digits / 10, s.exponent + 1⟩ else s

/-- The shortest digits of a positive, finite double: the widest decimal grid that has a hit. -/
def shortest (bits : Nat) : Scientific :=
  let i := Interval.ofBits bits
  let exponents := (List.range 640).map fun n : Nat ↦ (310 : Int) - n
  ((exponents.findSome? i.nearest?).getD ⟨0, 0⟩).normalize 20

structure Notation where
  least : Int
  greatest : Int
  deriving DecidableEq, Repr

/-- Numbers from 0.00001 to below 10 ^ 16 are written in positional notation. -/
def messageNotation : Notation := ⟨-4, 16⟩

def zeros (n : Int) : String :=
  String.ofList (List.replicate n.toNat '0')

def Scientific.render (form : Notation) (s : Scientific) : String :=
  let digits := toString s.digits
  let point := digits.length + s.exponent
  if 0 ≤ s.exponent ∧ point ≤ form.greatest then digits ++ zeros s.exponent ++ ".0"
  else if 0 < point ∧ point ≤ form.greatest then
    (digits.take point.toNat).toString ++ "." ++ (digits.drop point.toNat).toString
  else if form.least ≤ point ∧ point ≤ 0 then "0." ++ zeros (-point) ++ digits
  else
    let mantissa := if digits.length = 1 then digits
      else (digits.take 1).toString ++ "." ++ (digits.drop 1).toString
    mantissa ++ "e" ++ toString (point - 1)

def floatText (x : Float) : String :=
  let bits := x.toBits.toNat
  let magnitude := bits % Nat.pow 2 63
  let text := if magnitude = 0 then "0.0" else (shortest magnitude).render messageNotation
  if bits = magnitude then text else "-" ++ text

end TopDown.Decimal
