import UserRegistry.Binary64

/-!
# Shortest decimal text

The shortest decimal that rounds back to a finite number, found in exact
arithmetic, and its written forms.  `Finite64.shortest` looks at grids of one to
seventeen digits and takes the first grid with a point in the interval of reals
that round to the number; `Finite64.written` lays the digits out.
-/

namespace UserRegistry

/-- A positive decimal: its digits and the place of the point counted from
their left end, so that it denotes `0.digits · 10^point`. -/
structure Decimal where
  digits : List Char
  point : Int
  deriving DecidableEq

namespace Finite64

/-- A quotient of naturals, for magnitudes and the ends of intervals. -/
structure Quotient where
  numerator : Nat
  denominator : Nat

def Quotient.scaled (factor : Nat) (power : Int) : Quotient :=
  ⟨factor * Nat.pow 2 power.toNat, Nat.pow 2 (-power).toNat⟩

/-- The least exponent `e` with `q < 10^e`, for a positive quotient. -/
def Quotient.decimalPoint (q : Quotient) : Int :=
  if q.denominator ≤ q.numerator then
    (Numeral.decimal (q.numerator / q.denominator)).length
  else
    -- `10^-j ≤ q` holds exactly when the rounded-up inverse is at most `10^j`.
    let inverse := (q.denominator + q.numerator - 1) / q.numerator
    1 - ((Numeral.decimal (inverse - 1)).length : Int)

/-- Whether `point · 10^power` lies between `low` and `high`, ends included when
`closed`. -/
def Quotient.within (closed : Bool) (low high : Quotient) (point : Nat) (power : Int) : Bool :=
  let numerator := point * Nat.pow 10 power.toNat
  let denominator := Nat.pow 10 (-power).toNat
  let lowSide := low.numerator * denominator
  let lowPoint := numerator * low.denominator
  let highSide := high.numerator * denominator
  let highPoint := numerator * high.denominator
  if closed then lowSide ≤ lowPoint && highPoint ≤ highSide
  else lowSide < lowPoint && highPoint < highSide

/-- The lower end of the reals that round to the number, in quarters of the last
place; the gap below a power of two is half as wide. -/
def lowerEnd (x : Finite64) : Quotient :=
  if x.mantissa = binade ∧ 2 * binade ≤ x.rank.val then
    .scaled (4 * x.mantissa - 1) (x.exponent - 2)
  else .scaled (4 * x.mantissa - 2) (x.exponent - 2)

/-- The upper end of the reals that round to the number. -/
def upperEnd (x : Finite64) : Quotient :=
  .scaled (4 * x.mantissa + 2) (x.exponent - 2)

/-- The number's nearest neighbour among the decimals of `count` digits that
round back to it, if there is one; of two equally near ones the even. -/
def onGrid? (x : Finite64) (count : Nat) : Option (Nat × Int) :=
  let value := Quotient.scaled x.mantissa x.exponent
  let power := value.decimalPoint - count
  let numerator := value.numerator * Nat.pow 10 (-power).toNat
  let denominator := value.denominator * Nat.pow 10 power.toNat
  let closed := x.mantissa % 2 == 0
  let fits := fun point =>
    Quotient.within closed x.lowerEnd x.upperEnd point power
  let nearest := Binary64.roundQuotient numerator denominator
  let below := numerator / denominator
  let other := if nearest = below then below + 1 else below
  if fits nearest then some (nearest, power)
  else if fits other then some (other, power)
  else none

/-- The shortest decimal that reads back as the number, nearest first; zero has
the single digit `0`. -/
def shortest (x : Finite64) : Decimal :=
  if x.rank.val = 0 then ⟨['0'], 1⟩
  else
    match (List.range' 1 17).findSome? x.onGrid? with
    | none => ⟨['0'], 1⟩
    | some (point, power) =>
      let digits := Numeral.decimal point
      ⟨(digits.reverse.dropWhile (· = '0')).reverse, digits.length + power⟩

end Finite64

namespace Decimal

/-- Digits around a point, with at least one digit on either side. -/
def positional (decimal : Decimal) : List Char :=
  let digits := decimal.digits
  if decimal.point ≤ 0 then
    '0' :: '.' :: (List.replicate (-decimal.point).toNat '0' ++ digits)
  else
    let whole := decimal.point.toNat
    if digits.length ≤ whole then
      digits ++ List.replicate (whole - digits.length) '0' ++ ['.', '0']
    else digits.take whole ++ '.' :: digits.drop whole

/-- One digit before the point, then the exponent; no point after a lone digit. -/
def scientific (decimal : Decimal) (plus : List Char) : List Char :=
  let exponent := decimal.point - 1
  let fraction := decimal.digits.drop 1
  decimal.digits.take 1 ++ (if fraction.isEmpty then [] else '.' :: fraction)
    ++ 'e' :: (if exponent < 0 then [] else plus) ++ Numeral.signed exponent

end Decimal

/-- How a decimal is laid out: which points are written positionally, and the
sign put before a positive exponent. -/
structure Layout where
  positional : Int → Bool
  plus : List Char

def Layout.plain : Layout where
  positional _ := true
  plus := []

def Finite64.written (layout : Layout) (x : Finite64) : List Char :=
  let decimal := x.shortest
  (if x.negative then ['-'] else [])
    ++ if layout.positional decimal.point then decimal.positional
       else decimal.scientific layout.plus

end UserRegistry
