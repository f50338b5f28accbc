import UserRegistry.Numeral

/-!
# Binary64 numbers

The numbers of the 64-bit binary interchange format, as data.  A finite number
is its sign and the rank of its magnitude among all finite magnitudes counted
upwards from zero, so that two numbers are equal exactly when sign and rank are.
`Binary64.ofDecimal` rounds a decimal literal to the nearest number, a tie going
to the even rank.
-/

namespace UserRegistry

/-- How many magnitudes share an exponent: `2^52`. -/
abbrev Finite64.binade : Nat :=
  0x10000000000000

/-- How many finite magnitudes there are, for 2047 exponents. -/
abbrev Finite64.count : Nat :=
  2047 * binade

/-- A finite number: its sign and the rank of its magnitude. -/
structure Finite64 where
  negative : Bool
  rank : Fin Finite64.count
  deriving DecidableEq

namespace Finite64

/-- The integer `m` of the magnitude `m · 2^exponent`. -/
def mantissa (x : Finite64) : Nat :=
  if x.rank.val < binade then x.rank.val else binade + x.rank.val % binade

/-- The power of two that scales `mantissa`; the lowest two binades share it. -/
def exponent (x : Finite64) : Int :=
  (max 1 (x.rank.val / binade) : Nat) - 1075

/-- Equality as numbers: both zeros are one number. -/
def sameNumber (x y : Finite64) : Bool :=
  x == y || (x.rank.val == 0 && y.rank.val == 0)

end Finite64

/-- A number of the format: finite, infinite or not a number. -/
inductive Binary64 where
  | finite (number : Finite64)
  | infinite (negative : Bool)
  | nan
  deriving DecidableEq

namespace Binary64

/-- The quotient of two naturals rounded to the nearest integer, a tie going to
the even one. -/
def roundQuotient (numerator denominator : Nat) : Nat :=
  let quotient := numerator / denominator
  let twice := 2 * (numerator % denominator)
  if twice < denominator then quotient
  else if denominator < twice then quotient + 1
  else quotient + quotient % 2

/-- Whether `numerator / denominator` is at least `2^power`. -/
def atLeastPower (numerator denominator : Nat) (power : Int) : Bool :=
  decide (denominator * Nat.pow 2 power.toNat ≤ numerator * Nat.pow 2 (-power).toNat)

/-- The power of two with which a positive quotient is written as
`m · 2^power` with `m` below `2^53`, and no lower than the format's least. -/
def scale (numerator denominator : Nat) : Int :=
  let estimate : Int := (numerator.log2 : Int) - denominator.log2
  let log :=
    if atLeastPower numerator denominator estimate then estimate else estimate - 1
  max (-1074) (log - 52)

/-- The rank of the magnitude nearest to a positive quotient.  A rank of
`Finite64.count` or more means that the quotient rounds to infinity. -/
def nearestRank (numerator denominator : Nat) : Nat :=
  let power := scale numerator denominator
  let mantissa :=
    roundQuotient (numerator * Nat.pow 2 (-power).toNat) (denominator * Nat.pow 2 power.toNat)
  (power + 1074).toNat * Finite64.binade + mantissa

/-- The number with the given sign and rank, infinite from `Finite64.count` on. -/
def ofRank (negative : Bool) (rank : Nat) : Binary64 :=
  if bound : rank < Finite64.count then .finite ⟨negative, ⟨rank, bound⟩⟩
  else .infinite negative

/-- The number nearest to `significand · 10^exponent`.  Magnitudes of `10^310`
and more are infinite and those below `10^-330` are zero, so that no huge power
of ten is ever computed. -/
def ofDecimal (negative : Bool) (significand : Nat) (exponent : Int) : Binary64 :=
  let magnitude := (Numeral.decimal significand).length + exponent
  if significand = 0 ∨ magnitude < -330 then ofRank negative 0
  else if 310 < magnitude then .infinite negative
  else
    ofRank negative
      (nearestRank (significand * Nat.pow 10 exponent.toNat) (Nat.pow 10 (-exponent).toNat))

end Binary64

end UserRegistry
