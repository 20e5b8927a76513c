import ContainerDesk.Number.Numeral

/-!
# Binary64 numbers

Floating-point numbers of the usual 64-bit format, as exact data.  A finite number
is a sign, an exponent field and a fraction field; its size is a whole number of
units of `2 ^ -1074`, so all arithmetic on sizes is arithmetic of natural numbers.
There is one not-a-number, since nothing in the desk can tell two of them apart.

`nearest` rounds a quotient of natural numbers to the nearest number of the format,
a tie to the even neighbour.
-/

namespace ContainerDesk

/-- How many values the fraction field can take: it has 52 bits. -/
abbrev fractionCount : Nat := 4503599627370496

inductive Binary64 where
  | nan
  | infinite (negative : Bool)
  | finite (negative : Bool) (exponent : Fin 2047) (fraction : Fin fractionCount)
deriving DecidableEq

/-- The whole number nearest to a quotient; a tie goes to the even one. -/
def roundHalfEven (num den : Nat) : Nat :=
  let whole := num / den
  let rest := num % den
  if 2 * rest < den then
    whole
  else if den < 2 * rest then
    whole + 1
  else
    whole + whole % 2

namespace Binary64

/-- How many units of the format make one: a unit is `2 ^ -1074`. -/
def unitsPerOne : Nat := Nat.pow 2 1074

def units (exponent : Fin 2047) (fraction : Fin fractionCount) : Nat :=
  if exponent.val = 0 then
    fraction.val
  else
    (fractionCount + fraction.val) * Nat.pow 2 (exponent.val - 1)

def zero (negative : Bool) : Binary64 :=
  .finite negative ⟨0, by decide⟩ ⟨0, by decide⟩

/-- The number of a given size.  The size has at most 53 significant bits; one that is too
large for the format gives infinity. -/
def ofUnits (negative : Bool) (size : Nat) : Binary64 :=
  if size < fractionCount then
    .finite negative ⟨0, by decide⟩ ⟨size % fractionCount, Nat.mod_lt _ (by decide)⟩
  else
    let shift := size.log2 - 52
    if h : shift + 1 < 2047 then
      .finite negative ⟨shift + 1, h⟩
        ⟨size / Nat.pow 2 shift % fractionCount, Nat.mod_lt _ (by decide)⟩
    else
      .infinite negative

/-- The distance, in units, of the numbers around a size: one unit for the smallest. -/
def spacing (size : Nat) : Nat :=
  Nat.pow 2 (size.log2 - 52)

def nearest (negative : Bool) (num den : Nat) : Binary64 :=
  let gap := spacing (num * unitsPerOne / den)
  ofUnits negative (roundHalfEven (num * unitsPerOne) (den * gap) * gap)

def ofInt (n : Int) : Binary64 :=
  nearest (n < 0) n.natAbs 1

def divide (x : Binary64) (divisor : Nat) : Binary64 :=
  match x with
  | .finite negative exponent fraction =>
      nearest negative (units exponent fraction) (unitsPerOne * divisor)
  | other => other

def isZero : Binary64 → Bool
  | .finite _ exponent fraction => units exponent fraction = 0
  | _ => false

/-- Are two numbers equal as numbers?  Not-a-number equals nothing, the two zeros are equal. -/
def equal (x y : Binary64) : Bool :=
  match x, y with
  | .nan, _ => false
  | _, .nan => false
  | x, y => x = y || (x.isZero && y.isZero)

def equalInt (x : Binary64) (n : Int) : Bool :=
  match x with
  | .finite negative exponent fraction =>
      units exponent fraction = n.natAbs * unitsPerOne &&
        (n.natAbs = 0 || negative = decide (n < 0))
  | _ => false

def atLeast (x : Binary64) (n : Nat) : Bool :=
  match x with
  | .nan => false
  | .infinite negative => !negative
  | .finite negative exponent fraction =>
      if negative then
        n = 0 && units exponent fraction = 0
      else
        n * unitsPerOne ≤ units exponent fraction

def truncate? : Binary64 → Option Int
  | .finite negative exponent fraction =>
      let whole : Int := (units exponent fraction / unitsPerOne : Nat)
      some (if negative then -whole else whole)
  | _ => none

end Binary64

end ContainerDesk
