/-! # Numbers of 53 binary digits

A positive number or zero in binary, with a mantissa of at most 53 digits and an exponent no less than
-1074. Every operation gives the exact result rounded to the nearest such number, and of two that are
equally near to the one with an even mantissa; a result beyond the largest of them is no number. -/

namespace SandboxRouting

/-- The number `mantissa` times two to the `exponent`. -/
structure Binary64 where
  mantissa : Nat
  exponent : Int
deriving DecidableEq

namespace Binary64

/-- The number of binary digits of a mantissa. -/
def precision : Nat := 53

def leastExponent : Int := -1074

def greatestExponent : Int := 971

def zero : Binary64 := ⟨0, leastExponent⟩

/-- A whole number to a power; to one below the zeroth it is one, for such a power goes into the denominator. -/
def wholePower (base : Nat) (k : Int) : Nat := Nat.pow base k.toNat

/-- The number as a fraction, numerator first. -/
def fraction (x : Binary64) : Nat × Nat :=
  (x.mantissa * wholePower 2 x.exponent, wholePower 2 (-x.exponent))

/-- The whole number nearest to a fraction, of two the even one. -/
def nearest (num den : Nat) : Nat :=
  let whole := num / den
  let double := 2 * (num % den)
  if double < den then whole
  else if den < double then whole + 1
  else whole + whole % 2

/-- The exponent of the greatest power of two that is at most a positive fraction. -/
def binaryOrder (num den : Nat) : Int :=
  let guess : Int := (num.log2 : Int) - den.log2
  if den * wholePower 2 guess ≤ num * wholePower 2 (-guess) then guess else guess - 1

/-- The number nearest to a fraction, unless that lies beyond all of them. -/
def round? (num den : Nat) : Option Binary64 :=
  if num = 0 then some zero
  else
    let exponent := max (binaryOrder num den - (precision - 1 : Nat)) leastExponent
    let mantissa := nearest (num * wholePower 2 (-exponent)) (den * wholePower 2 exponent)
    let x :=
      if mantissa = wholePower 2 precision then ⟨wholePower 2 (precision - 1), exponent + 1⟩
      else ⟨mantissa, exponent⟩
    if x.exponent ≤ greatestExponent then some x else none

def mul? (x y : Binary64) : Option Binary64 :=
  round? (x.fraction.1 * y.fraction.1) (x.fraction.2 * y.fraction.2)

/-- The quotient of two numbers, of which the second is not zero. -/
def div? (x y : Binary64) : Option Binary64 :=
  round? (x.fraction.1 * y.fraction.2) (x.fraction.2 * y.fraction.1)

end Binary64
end SandboxRouting
