import Preflight.Number.Binary64

/-! The shortest decimal text of a double-precision number: the fewest digits that read back as
the same number and, of those, the nearest. Found on the decimal grids of 1, 2, … 17 digits by
exact arithmetic. -/
namespace Preflight.Binary64

/-- A positive number with the bounds of the reals that round to it, all three over the one
denominator `den`. The bounds themselves belong to it when `closed`. -/
structure Span where
  low : Nat
  value : Nat
  high : Nat
  den : Nat
  closed : Bool

/-- Half a unit to either side; a quarter below a power of two, where the grid is finer. -/
def span (mantissa : Nat) (exponent : Int) : Span :=
  let below := if mantissa = Nat.pow 2 (precision - 1) && minExponent < exponent then 1 else 2
  let (unit, den) := ratio 1 (exponent - 2)
  { low := (4 * mantissa - below) * unit
    value := 4 * mantissa * unit
    high := (4 * mantissa + 2) * unit
    den := den
    closed := mantissa % 2 = 0 }

def Span.scale (s : Span) (up down : Nat) : Span :=
  { low := s.low * up, value := s.value * up, high := s.high * up, den := s.den * down,
    closed := s.closed }

/-- The grid point `n` reads back as the number. -/
def Span.holds (s : Span) (n : Nat) : Bool :=
  if s.closed then s.low ≤ n * s.den && n * s.den ≤ s.high
  else s.low < n * s.den && n * s.den < s.high

/-- The whole number nearest to the value among its two neighbours that read back. -/
def Span.nearest? (s : Span) : Option Nat :=
  let q := s.value / s.den
  let r := s.value % s.den
  let down := 2 * r < s.den || (2 * r = s.den && q % 2 = 0)
  let (near, far) := if down then (q, q + 1) else (q + 1, q)
  if s.holds near then some near else if s.holds far then some far else none

/-- The least `p` with the value below `10 ^ p`. -/
def Span.point (s : Span) : Int :=
  if s.den ≤ s.value then (Nat.toDigits 10 (s.value / s.den)).length
  else
    let zeros := ((List.range 330).find? fun j => s.den ≤ s.value * Nat.pow 10 (j + 1)).getD 330
    (-zeros : Int)

/-- Digits `0.d₁d₂…` with the power of ten they are multiplied by. -/
structure Digits where
  digits : List Char
  point : Int
deriving DecidableEq, Repr

def Digits.trim (d : Digits) : Digits :=
  { d with digits := (d.digits.reverse.dropWhile (· == '0')).reverse }

/-- The value on the grid of `count` digits. -/
def Span.digits? (s : Span) (p : Int) (count : Nat) : Option Digits :=
  let shift := (count : Int) - p
  let scaled := if 0 ≤ shift then s.scale (Nat.pow 10 shift.toNat) 1
    else s.scale 1 (Nat.pow 10 (-shift).toNat)
  scaled.nearest?.map fun n =>
    let ds := Nat.toDigits 10 n
    Digits.trim { digits := ds, point := p + ds.length - count }

def shortest (mantissa : Nat) (exponent : Int) : Digits :=
  let s := span mantissa exponent
  let p := s.point
  ((List.range 17).findSome? fun k => s.digits? p (k + 1)).getD { digits := [], point := 0 }

/-- An exponent with its sign and at least two digits. -/
def exponentPart (e : Int) : List Char :=
  'e' :: (if e < 0 then '-' else '+') :: (Nat.toDigits 10 e.natAbs).leftpad 2 '0'

/-- Positional between `0.0001` and `10 ^ 16`, with a fraction even when it is zero; outside,
one digit before the point and an exponent. -/
def Digits.layout (d : Digits) : List Char :=
  if -4 < d.point && d.point ≤ 16 then
    if d.point ≤ 0 then '0' :: '.' :: (List.replicate (-d.point).toNat '0' ++ d.digits)
    else
      let whole := d.point.toNat
      let front := (d.digits.take whole).rightpad whole '0'
      let back := d.digits.drop whole
      front ++ '.' :: (if back.isEmpty then ['0'] else back)
  else
    let head := match d.digits with
      | [c] => [c]
      | c :: rest => c :: '.' :: rest
      | [] => ['0']
    head ++ exponentPart (d.point - 1)

def display : Binary64 → String
  | .nan => "nan"
  | .infinite negative => if negative then "-inf" else "inf"
  | .finite negative m e =>
    let body := if m = 0 then ['0', '.', '0'] else (shortest m e).layout
    .ofList (if negative then '-' :: body else body)

end Preflight.Binary64
