import ContainerDesk.Number.Binary64

/-!
# Decimal notation of binary64 numbers

A decimal is a natural number times a power of ten.  Reading rounds it to the
nearest binary64 number.  Writing looks for the fewest digits that read back as the
number, at most seventeen, and takes of two such decimals the nearer one.

The written form is positional while the decimal point stands close to the digits,
and has an exponent of at least two digits otherwise; a positional form always
shows a digit after the point.  The other form has a fixed single place after the
point.
-/

namespace ContainerDesk

namespace Binary64

/-!
# Reading
-/

/-- The largest power of ten that can matter: larger ones overflow or vanish. -/
def decimalReach : Nat := 400

def ofDecimal (negative : Bool) (digits : Nat) (exponent : Int) : Binary64 :=
  if digits = 0 then
    zero negative
  else if 0 ≤ exponent then
    if exponent ≤ decimalReach then
      nearest negative (digits * Nat.pow 10 exponent.natAbs) 1
    else
      .infinite negative
  else if exponent.natAbs ≤ decimalReach + (numeral digits).length then
    nearest negative digits (Nat.pow 10 exponent.natAbs)
  else
    zero negative

def spanDigits (t : Text) : Text × Text :=
  (t.takeWhile CodePoint.isDigit, t.dropWhile CodePoint.isDigit)

def readExponent? : Text → Option Int
  | [] => some 0
  | mark :: rest =>
      if mark.val = 101 || mark.val = 69 then
        let (negative, digits) :=
          match rest with
          | [] => (false, [])
          | sign :: digits =>
              if sign.val = 45 then (true, digits)
              else if sign.val = 43 then (false, digits)
              else (false, rest)
        if !digits.isEmpty && digits.all CodePoint.isDigit then
          let size : Int := digitsValue digits
          some (if negative then -size else size)
        else
          none
      else
        none

/-- The number that unsigned decimal notation stands for: digits, a point among or beside
them, and an exponent. -/
def readUnsigned? (negative : Bool) (t : Text) : Option Binary64 :=
  let (whole, afterWhole) := spanDigits t
  let (places, afterPlaces) :=
    match afterWhole with
    | [] => ([], [])
    | point :: rest => if point.val = 46 then spanDigits rest else ([], afterWhole)
  if whole.isEmpty && places.isEmpty then
    none
  else
    (readExponent? afterPlaces).map fun exponent =>
      ofDecimal negative (digitsValue (whole ++ places)) (exponent - places.length)

/-!
# Writing
-/

/-- Where the decimal point stands: the size lies between `10 ^ (p - 1)` and `10 ^ p`. -/
def pointPosition (size : Nat) : Int :=
  let whole := size / unitsPerOne
  if whole ≠ 0 then
    (numeral whole).length
  else
    1 - ((numeral ((unitsPerOne + size - 1) / size - 1)).length : Int)

/-- Of the two neighbours of a size among the multiples of `10 ^ exponent`, the one that reads
back as the number; if both do, the nearer one. -/
def neighbour? (x : Binary64) (size : Nat) (exponent : Int) : Option Nat :=
  let num := if 0 ≤ exponent then size else size * Nat.pow 10 exponent.natAbs
  let den := if 0 ≤ exponent then unitsPerOne * Nat.pow 10 exponent.natAbs else unitsPerOne
  let below := num / den
  match decide (ofDecimal false below exponent = x),
      decide (ofDecimal false (below + 1) exponent = x) with
  | true, true => some (roundHalfEven num den)
  | true, false => some below
  | false, true => some (below + 1)
  | false, false => none

/-- The decimal with the fewest digits that reads back as a positive finite number. -/
def shortest (exponentField : Fin 2047) (fraction : Fin fractionCount) : Nat × Int :=
  let x := Binary64.finite false exponentField fraction
  let size := units exponentField fraction
  let point := pointPosition size
  let found := (List.range 17).findSome? fun (count : Nat) =>
    let exponent := point - (count + 1)
    (neighbour? x size exponent).map fun digits => (digits, exponent)
  found.getD (size * Nat.pow 5 1074, -1074)

def withoutTrailingZeros (digits : Nat) (exponent : Int) : Nat × Int :=
  if digits ≠ 0 ∧ digits % 10 = 0 then
    withoutTrailingZeros (digits / 10) (exponent + 1)
  else
    (digits, exponent)
termination_by digits

def zeros (count : Nat) : Text :=
  List.replicate count (CodePoint.ofChar '0')

/-- A decimal point this far right of the first digit is still written positionally. -/
def lastPlainPoint : Int := 16

/-- A decimal point this far left of the first digit is no longer written positionally. -/
def firstScaledPoint : Int := -4

def writeDecimal (digits : Nat) (exponent : Int) : Text :=
  let (digits, exponent) := withoutTrailingZeros digits exponent
  let row := numeral digits
  let point := row.length + exponent
  if firstScaledPoint < point ∧ point ≤ 0 then
    Text.of "0." ++ zeros point.natAbs ++ row
  else if 0 < point ∧ point ≤ lastPlainPoint then
    if row.length ≤ point.natAbs then
      row ++ zeros (point.natAbs - row.length) ++ Text.of ".0"
    else
      row.take point.natAbs ++ Text.of "." ++ row.drop point.natAbs
  else
    let power := (point - 1).natAbs
    row.take 1 ++ (if row.length ≤ 1 then [] else Text.of "." ++ row.drop 1) ++
      Text.of (if point - 1 < 0 then "e-" else "e+") ++
      (if power < 10 then zeros 1 else []) ++ numeral power

def signText (negative : Bool) : Text :=
  if negative then Text.of "-" else []

def write : Binary64 → Text
  | .nan => Text.of "nan"
  | .infinite negative => signText negative ++ Text.of "inf"
  | .finite negative exponent fraction =>
      signText negative ++
        (if units exponent fraction = 0 then
          Text.of "0.0"
        else
          let (digits, power) := shortest exponent fraction
          writeDecimal digits power)

def writeTenths (tenths : Nat) : Text :=
  numeral (tenths / 10) ++ Text.of "." ++ [digit (tenths % 10)]

/-- The notation with one place after the point; a tie goes to the even digit. -/
def writeOnePlace : Binary64 → Text
  | .nan => Text.of "nan"
  | .infinite negative => signText negative ++ Text.of "inf"
  | .finite negative exponent fraction =>
      signText negative ++ writeTenths (roundHalfEven (units exponent fraction * 10) unitsPerOne)

end Binary64

end ContainerDesk
