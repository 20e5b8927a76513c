import ContainerDesk.Number.Decimal

/-!
# Rounded decimals

The size of a binary64 number as decimal digits of a given count: so many places after
the point, or so many digits from the first one that is no zero.  A tie goes to the
even digit.

No binary64 number has more than `lastPlace` places after the point, and none has more
significant digits than that, so a longer row of digits only has more zeros at its end.
-/

namespace ContainerDesk

/-- A row of decimal digits and the place of the point: so many digits stand before it. -/
structure DigitRow where
  digits : Text
  point : Int

namespace Binary64

/-- The last place after the point that can hold a digit other than zero. -/
def lastPlace : Nat := 1100

def withZeros (length : Nat) (t : Text) : Text :=
  t ++ zeros (length - t.length)

def toPlaces (places size : Nat) : DigitRow :=
  let kept := min places lastPlace
  let row := numeral (roundHalfEven (size * Nat.pow 10 kept) unitsPerOne)
  let full := zeros (kept + 1 - row.length) ++ row
  ⟨full ++ zeros (places - kept), full.length - kept⟩

def scaledTo (exponent : Int) (size : Nat) : Nat :=
  if 0 ≤ exponent then
    roundHalfEven (size * Nat.pow 10 exponent.natAbs) unitsPerOne
  else
    roundHalfEven size (unitsPerOne * Nat.pow 10 exponent.natAbs)

def toSignificant (count size : Nat) : DigitRow :=
  let kept := min count lastPlace
  let row : DigitRow :=
    if size = 0 then
      ⟨zeros kept, 1⟩
    else
      let point := pointPosition size
      let row := numeral (scaledTo (kept - point) size)
      if row.length ≤ kept then
        ⟨row, point⟩
      else
        ⟨row.take kept, point + 1⟩
  { row with digits := withZeros count row.digits }

/-- The fewest digits that read back as the number with a given exponent and fraction. -/
def toShortest (exponent : Fin 2047) (fraction : Fin fractionCount) : DigitRow :=
  if units exponent fraction = 0 then
    ⟨zeros 1, 1⟩
  else
    let (digits, power) := shortest exponent fraction
    let row := numeral digits
    ⟨row, row.length + power⟩

def hundredfold : Binary64 → Binary64
  | .finite negative exponent fraction =>
      nearest negative (units exponent fraction * 100) unitsPerOne
  | other => other

end Binary64

namespace DigitRow

/-- A row without the zeros at its end; a row of zeros keeps one. -/
def withoutTrailingZeros (row : DigitRow) : DigitRow :=
  let kept := (row.digits.reverse.dropWhile fun c => c.val = 48).reverse
  if kept.isEmpty then { row with digits := Binary64.zeros 1 } else { row with digits := kept }

def isZero (row : DigitRow) : Bool :=
  row.digits.all fun c => c.val = 48

def whole (row : DigitRow) : Text :=
  if row.point ≤ 0 then
    Binary64.zeros 1
  else
    (Binary64.withZeros row.point.natAbs row.digits).take row.point.natAbs

def places (row : DigitRow) : Text :=
  if row.point ≤ 0 then
    Binary64.zeros row.point.natAbs ++ row.digits
  else
    row.digits.drop row.point.natAbs

end DigitRow

end ContainerDesk
