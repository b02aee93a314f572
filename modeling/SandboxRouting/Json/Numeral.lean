import SandboxRouting.Number.Binary64

/-! # Numerals

A number as a document writes it: a sign, the digits before the point, those after it, and a power of
ten. A numeral without point and power that fits into 64 bits stands for a whole number, where a minus
makes room for one bit less. Any other stands for the binary number that its digits and its power give,
unless that is too great; negative zero is among these.

Digits count as long as they fit into 64 bits. From then on a digit before the point only moves the
point, and one after it is dropped. -/

namespace SandboxRouting
namespace Json

structure Numeral where
  negative : Bool
  whole : Nat
  fraction : List (Fin 10)
  power : Option Int
deriving DecidableEq

/-- What a numeral stands for. -/
inductive Numeral.Value where
  | integer (value : Int)
  | binary (negative : Bool) (value : Binary64)
deriving DecidableEq

namespace Numeral

def ofNat (n : Nat) : Numeral := ⟨false, n, [], none⟩

def ofInt (n : Int) : Numeral := ⟨n < 0, n.natAbs, [], none⟩

def digitChar (d : Fin 10) : Char := Nat.digitChar d.val

def powerText : Option Int → List Char
  | none => []
  | some p => 'e' :: ((if p < 0 then ['-'] else []) ++ Nat.toDigits 10 p.natAbs)

def text (n : Numeral) : List Char :=
  (if n.negative then ['-'] else []) ++ Nat.toDigits 10 n.whole ++
    (if n.fraction.isEmpty then [] else '.' :: n.fraction.map digitChar) ++ powerText n.power

/-- The digits that count, as one number, and the power of ten that it is multiplied by. -/
structure Parts where
  digits : Nat
  power : Int

/-- Takes a further digit before the point, unless no more fit. `full` says that one did not fit before. -/
def takeWhole : Bool → Parts → List Nat → Parts
  | _, p, [] => p
  | true, p, _ :: rest => takeWhole true { p with power := p.power + 1 } rest
  | false, p, d :: rest =>
    if 10 * p.digits + d < UInt64.size then takeWhole false { p with digits := 10 * p.digits + d } rest
    else takeWhole true { p with power := p.power + 1 } rest

/-- Takes further digits after the point, until one does not fit. -/
def takeFraction : Parts → List Nat → Parts
  | p, [] => p
  | p, d :: rest =>
    if 10 * p.digits + d < UInt64.size then takeFraction ⟨10 * p.digits + d, p.power - 1⟩ rest else p

/-- The digits and the power of a numeral, its own power left out. -/
def parts (n : Numeral) : Parts :=
  takeFraction (takeWhole false ⟨0, 0⟩ ((Nat.toDigits 10 n.whole).map fun c => c.toNat - 0x30))
    (n.fraction.map Fin.val)

/-- The greatest power of ten that is multiplied or divided by at once. -/
def greatestPower : Nat := 308

/-- Divides by powers of ten, the greatest one at first, in at most as many steps as are given. -/
def scaleDown : Nat → Binary64 → Nat → Option Binary64
  | 0, x, _ => some x
  | n + 1, x, power =>
    if x.mantissa = 0 then some x
    else if power ≤ greatestPower then do
      x.div? (← Binary64.round? (Binary64.wholePower 10 power) 1)
    else do
      scaleDown n (← x.div? (← Binary64.round? (Binary64.wholePower 10 greatestPower) 1)) (power - greatestPower)

/-- Digits times a power of ten as a binary number, unless it is too great. -/
def binary? (digits : Nat) (power : Int) : Option Binary64 := do
  let x ← Binary64.round? digits 1
  if 0 ≤ power then
    if power ≤ greatestPower then x.mul? (← Binary64.round? (Binary64.wholePower 10 power) 1)
    else if digits = 0 then some x
    else none
  else scaleDown 8 x (-power).toNat

/-- The most that a power of ten may be, either way, before the digits are looked at. -/
def powerLimit : Nat := Nat.pow 2 31

/-- What the numeral stands for, unless it is too great. -/
def value? (n : Numeral) : Option Value :=
  let isWhole := n.fraction.isEmpty && n.power.isNone
  if isWhole && !n.negative && n.whole < Nat.pow 2 64 then some (.integer n.whole)
  else if isWhole && n.negative && 0 < n.whole && n.whole ≤ Nat.pow 2 63 then some (.integer (-n.whole))
  else
    let p := n.parts
    let own := n.power.getD 0
    if own.natAbs < powerLimit then (binary? p.digits (p.power + own)).map (.binary n.negative)
    else if 0 < own ∧ p.digits ≠ 0 then none
    else some (.binary n.negative .zero)

end Numeral
end Json
end SandboxRouting
