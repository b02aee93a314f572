import SandboxRouting.Number.Binary64

/-! # The fewest decimal digits

A number is written with the fewest decimal digits that tell it from all others of its kind, and with
the nearest such digits. The numbers that round to it form an interval around it; for one digit, two
digits and so on, the two decimal numbers next to it are tried until one lies in the interval.

The digits are placed around a point while they begin between the fifth place after it and the
sixteenth before it, and are followed by a power of ten otherwise. There is always a point or a power
of ten. -/

namespace SandboxRouting
namespace Binary64

/-- Decimal digits as one number, times ten to the `exponent`. -/
structure Decimal where
  digits : Nat
  exponent : Int
deriving DecidableEq

/-- Compares a fraction with `n` times ten to the `k`: whether it is at most that. -/
def fractionLE (num den n : Nat) (k : Int) : Bool :=
  num * wholePower 10 (-k) ≤ n * wholePower 10 k * den

/-- Whether a fraction is at least `n` times ten to the `k`. -/
def fractionGE (num den n : Nat) (k : Int) : Bool :=
  n * wholePower 10 k * den ≤ num * wholePower 10 (-k)

/-- The exponent of the greatest power of ten that is at most a positive fraction. -/
def decimalOrder (num den : Nat) : Int :=
  if den ≤ num then ((Nat.toDigits 10 (num / den)).length : Int) - 1
  else
    let places := (Nat.toDigits 10 (den / num)).length
    if fractionGE num den 1 (1 - places) then 1 - places else -places

/-- The ends of the interval of numbers that round to `x`, over the denominator `den`. -/
structure Interval where
  low : Nat
  high : Nat
  den : Nat
  /-- The ends belong to the interval. -/
  closed : Bool

/-- The numbers that round to `x`: half the way to its neighbours, of which the lower one is nearer at a
    power of two. -/
def interval (x : Binary64) : Interval :=
  let f : Binary64 := ⟨1, x.exponent⟩
  let (unit, den) := f.fraction
  let below := if x.mantissa = wholePower 2 (precision - 1) ∧ leastExponent < x.exponent then 1 else 2
  ⟨(4 * x.mantissa - below) * unit, (4 * x.mantissa + 2) * unit, 4 * den, x.mantissa % 2 = 0⟩

def Interval.holds (i : Interval) (d : Decimal) : Bool :=
  let above := fractionLE i.low i.den d.digits d.exponent
  let below := fractionGE i.high i.den d.digits d.exponent
  let inside := !fractionGE i.low i.den d.digits d.exponent && !fractionLE i.high i.den d.digits d.exponent
  if i.closed then above && below else inside

/-- The nearest decimal number with a given number of digits that lies in the interval, if one does. -/
def withDigits? (x : Binary64) (count : Nat) : Option Decimal :=
  let (num, den) := x.fraction
  let exponent := decimalOrder num den - ((count : Int) - 1)
  let n := num * wholePower 10 (-exponent)
  let d := den * wholePower 10 exponent
  let lower : Decimal := ⟨n / d, exponent⟩
  let upper : Decimal := ⟨n / d + 1, exponent⟩
  let nearer : Decimal := ⟨nearest n d, exponent⟩
  match x.interval.holds lower, x.interval.holds upper with
  | true, true => some nearer
  | true, false => some lower
  | false, true => some upper
  | false, false => none

/-- The same decimal number without a zero as its last digit, which only a one with a zero can have here:
    it is the upper neighbour where all digits are nines. -/
def Decimal.trimmed (d : Decimal) : Decimal :=
  if d.digits % 10 = 0 then ⟨d.digits / 10, d.exponent + 1⟩ else d

/-- The fewest decimal digits that tell a positive number from all others. -/
def shortest (x : Binary64) : Decimal :=
  match (List.range 17).findSome? fun n => x.withDigits? (n + 1) with
  | some d => d.trimmed
  | none => ⟨0, 0⟩

/-- The places before the point up to which digits are placed around a point. -/
def mostPlaces : Int := 16

/-- The places after the point up to which the first digit is looked for. -/
def mostLeadingPlaces : Int := 5

/-- The number in decimal. -/
def text (x : Binary64) : String :=
  if x.mantissa = 0 then "0.0"
  else
    let d := x.shortest
    let digits := Nat.toDigits 10 d.digits
    let places := digits.length + d.exponent
    if places ≤ mostPlaces ∧ -mostLeadingPlaces < places then
      if 0 ≤ d.exponent then String.ofList (digits ++ List.replicate d.exponent.toNat '0' ++ ['.', '0'])
      else if 0 < places then String.ofList (digits.take places.toNat ++ '.' :: digits.drop places.toNat)
      else String.ofList ('0' :: '.' :: List.replicate (-places).toNat '0' ++ digits)
    else
      let power := places - 1
      let sign := if power < 0 then ['-'] else ['+']
      let point := if digits.length = 1 then [] else '.' :: digits.drop 1
      String.ofList (digits.take 1 ++ point ++ 'e' :: sign ++ Nat.toDigits 10 power.natAbs)

end Binary64
end SandboxRouting
