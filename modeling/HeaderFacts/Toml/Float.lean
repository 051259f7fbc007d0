/-!
# Floating point numbers

A number with a fraction or exponent is kept with 53 binary digits, as it is rounded to the nearest
such number, and it is written with the fewest decimal digits that are rounded to it.

Main definitions:

* `Binary64` — a finite number that is not negative.
* `Binary64.ofDecimal?` — the nearest number to a decimal one.
* `Binary64.shortest` — the shortest decimal number that is rounded to a number.
-/

namespace HeaderFacts

/-- A fraction of natural numbers. -/
structure Fraction where
  num : Nat
  den : Nat

namespace Fraction

/-- `n` times the power of a base. -/
def scaled (n base : Nat) (exponent : Int) : Fraction :=
  if 0 ≤ exponent then ⟨n * base.pow exponent.toNat, 1⟩ else ⟨n, base.pow (-exponent).toNat⟩

/-- The nearest natural number; between two the even one. -/
def round (x : Fraction) : Nat :=
  let quotient := x.num / x.den
  let twice := 2 * (x.num % x.den)
  if x.den < twice || (x.den == twice && quotient % 2 == 1) then quotient + 1 else quotient

/-- A fraction divided by the power of a base. -/
def scaledDown (x : Fraction) (base : Nat) (exponent : Int) : Fraction :=
  if 0 ≤ exponent then ⟨x.num, x.den * base.pow exponent.toNat⟩
  else ⟨x.num * base.pow (-exponent).toNat, x.den⟩

/-- How far a fraction is from another, times both denominators. -/
def distance (x y : Fraction) : Nat :=
  (x.num * y.den - y.num * x.den) + (y.num * x.den - x.num * y.den)

end Fraction

/-- The number `mantissa * 2 ^ exponent`. -/
structure Binary64 where
  mantissa : Nat
  exponent : Int
  deriving DecidableEq, Repr

namespace Binary64

def toFraction (b : Binary64) : Fraction :=
  .scaled b.mantissa 2 b.exponent

/-- The nearest number to a positive fraction, with 53 digits or the least exponent. -/
def ofFraction (x : Fraction) : Binary64 :=
  let length : Int := x.num.log2 - x.den.log2
  -- the fraction lies between the powers of two of `length - 1` and `length + 1`
  let top := x.scaledDown 2 length
  let length := if top.num < top.den then length - 1 else length
  let exponent := max (length - 52) (-1074)
  let mantissa := (x.scaledDown 2 exponent).round
  -- rounding up may give one more digit, which is zero
  if mantissa.log2 = 53 then ⟨mantissa / 2, exponent + 1⟩ else ⟨mantissa, exponent⟩

/-- The nearest number to `digits * 10 ^ scale`, unless that is too large. -/
def ofDecimal? (digits : Nat) (scale : Int) : Option Binary64 :=
  let size : Int := (Nat.toDigits 10 digits).length + scale
  if digits = 0 ∨ size < -330 then some ⟨0, 0⟩
  else if 310 < size then none
  else
    let b := ofFraction (.scaled digits 10 scale)
    if 971 < b.exponent then none else some b

/-- The number of digits that is nearest to `b`, among those of a scale that are rounded to it. -/
def digitsAt? (b : Binary64) (scale : Int) : Option Nat :=
  let x := b.toFraction
  let below := (x.scaledDown 10 scale).num / (x.scaledDown 10 scale).den
  let fits (digits : Nat) : Bool := ofDecimal? digits scale == some b
  let nearer := (Fraction.scaled (below + 1) 10 scale).distance x <
    (Fraction.scaled below 10 scale).distance x
  match fits below, fits (below + 1) with
  | true, true => some (if nearer then below + 1 else below)
  | true, false => some below
  | false, true => some (below + 1)
  | false, false => none

/-- The first scale from the given one downwards at which digits are found. -/
def shortestFrom (b : Binary64) (scale : Int) : Nat → Option (Nat × Int)
  | 0 => none
  | fuel + 1 =>
    match b.digitsAt? scale with
    | some digits => some (digits, scale)
    | none => b.shortestFrom (scale - 1) fuel

/-- The shortest decimal number that is rounded to a number, as digits and a scale. None has more
than 309 digits before the point, and the last of seventeen digits is at place 340 at most. -/
def shortest (b : Binary64) : Nat × Int :=
  if b.mantissa = 0 then (0, 0) else (b.shortestFrom 309 650).getD (0, 0)

end Binary64

end HeaderFacts
