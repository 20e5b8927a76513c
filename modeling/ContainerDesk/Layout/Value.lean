import ContainerDesk.Layout.Figure

/-!
# Values in fields

How values fill the fields of a template.  Texts are cut to the precision.  Integers are
written in a radix or as a code point, and both kinds of numbers in fixed, scaled or
general form.  The general form shows as many significant digits as the precision says,
and chooses by the place of the point between the fixed and the scaled one.  No other
value can be laid out, but all can stand in a field without a layout.
-/

namespace ContainerDesk

namespace Layout

def wrong {α : Type} (defect : Template.Defect) : Except Fault α :=
  .error (.badTemplate defect)

def groupSize (code : CodePoint) : Nat :=
  if isPowerCode code then 4 else 3

/-!
# Texts
-/

def layText (layout : Layout) (t : Text) : Except Fault Text :=
  if layout.code ≠ usualCode .text then
    wrong (.unknownCode (layout.code.getD zero) .text)
  else if layout.sign = some .space then
    wrong .spaceOfText
  else if layout.sign.isSome then
    wrong .signOfText
  else if layout.hidesNegativeZero then
    wrong .plainZeroOfText
  else if layout.isAlternate then
    wrong .alternateText
  else if layout.alignment = .afterSign then
    wrong .afterSignOfText
  else
    layout.placeText t

/-!
# Binary64 numbers
-/

def precisionLimit : Nat := 2147483647

def usualPrecision : Nat := 6

inductive Form where
  | fixed
  | scaled
  | general
  /-- The fewest digits that read back. -/
  | shortest
deriving DecidableEq

/-- The point and the places after it.  The point goes with the last place. -/
def placesText (keepsPoint : Bool) (places : Text) : Text :=
  if places.isEmpty && !keepsPoint then [] else Text.of "." ++ places

/-- A power of ten: a sign and two digits at least. -/
def powerText (power : Int) : Text :=
  Text.of (if power < 0 then "e-" else "e+") ++ zeroFilled 2 (numeral power.natAbs)

def fixedFigure (isNegative keepsPoint : Bool) (digits : DigitRow) : Figure :=
  ⟨isNegative, [], digits.whole, placesText keepsPoint digits.places⟩

/-- A row of digits in scaled form: the point stands after the first one. -/
def scaledFigure (isNegative keepsPoint : Bool) (digits : DigitRow) : Figure :=
  let figure := fixedFigure isNegative keepsPoint { digits with point := 1 }
  { figure with tail := figure.tail ++ powerText (digits.point - 1) }

/-- A row of digits in fixed form while the point stands close to them, in scaled form
otherwise.  With a place for sure, a zero stands after the point where nothing else does. -/
def generalFigure (isNegative keepsPoint hasPlace : Bool) (lastPoint : Int)
    (digits : DigitRow) : Figure :=
  if digits.point ≤ Binary64.firstScaledPoint || lastPoint < digits.point then
    scaledFigure isNegative keepsPoint digits
  else if hasPlace && digits.places.isEmpty then
    ⟨isNegative, [], digits.whole, Text.of ".0"⟩
  else
    fixedFigure isNegative keepsPoint digits

def finiteFigure (layout : Layout) (form : Form) (precision : Nat) (isNegative : Bool)
    (exponent : Fin 2047) (fraction : Fin fractionCount) : Figure :=
  let size := Binary64.units exponent fraction
  let keepsPoint := layout.isAlternate
  let signed (digits : DigitRow) : Bool :=
    isNegative && !(layout.hidesNegativeZero && digits.isZero)
  match form with
  | .fixed =>
      let digits := Binary64.toPlaces precision size
      fixedFigure (signed digits) keepsPoint digits
  | .scaled =>
      let digits := Binary64.toSignificant (precision + 1) size
      scaledFigure (signed digits) keepsPoint digits
  | .general =>
      let count := max precision 1
      let hasPlace := layout.code.isNone
      let lastPoint : Int := if hasPlace then count - 1 else count
      let digits :=
        if keepsPoint then
          Binary64.toSignificant count size
        else
          (Binary64.toSignificant (min count Binary64.lastPlace) size).withoutTrailingZeros
      generalFigure (signed digits) keepsPoint hasPlace lastPoint digits
  | .shortest =>
      let digits := (Binary64.toShortest exponent fraction).withoutTrailingZeros
      generalFigure (signed digits) keepsPoint true Binary64.lastPlainPoint digits

def figureOf (layout : Layout) (form : Form) (precision : Nat) : Binary64 → Figure
  | .nan => ⟨false, [], [], Text.of "nan"⟩
  | .infinite negative => ⟨negative, [], [], Text.of "inf"⟩
  | .finite negative exponent fraction =>
      layout.finiteFigure form precision negative exponent fraction

def capital (c : CodePoint) : CodePoint :=
  if 97 ≤ c.val && c.val ≤ 122 then CodePoint.ofNat (c.val - 32) else c

def capitals (figure : Figure) : Figure :=
  { figure with
    lead := figure.lead.map capital
    digits := figure.digits.map capital
    tail := figure.tail.map capital }

def formOf? (layout : Layout) : Option Form :=
  match layout.code with
  | none => some (if layout.precision.isSome then .general else .shortest)
  | some code =>
      if (Text.of "eE").contains code then some .scaled
      else if (Text.of "fF%").contains code then some .fixed
      else if (Text.of "gGn").contains code then some .general
      else none

/-- A binary64 number in its field; the kind is the one of the value that it comes from. -/
def layBinary64 (layout : Layout) (kind : Kind) (x : Binary64) : Except Fault Text :=
  match layout.formOf? with
  | none => wrong (.unknownCode (layout.code.getD zero) kind)
  | some form =>
      let precision := layout.precision.getD usualPrecision
      if precisionLimit < precision then
        wrong .precisionTooLarge
      else if widest < precision && (form ≠ .general || layout.isAlternate) then
        .error .tooLarge
      else
        let isPercent := layout.code = some (CodePoint.ofChar '%')
        let figure := layout.figureOf form precision (if isPercent then x.hundredfold else x)
        let figure := if (layout.code.any fun code => (Text.of "EFG").contains code) then
          capitals figure else figure
        let tail := if isPercent then figure.tail ++ Text.of "%" else figure.tail
        layout.placeFigure 3 { figure with tail }

/-!
# Integers
-/

/-- The largest integer that is looked at as a code point at all. -/
def wordLimit : Nat := 9223372036854775807

def layCodePoint (layout : Layout) (n : Int) : Except Fault Text :=
  if layout.sign.isSome then
    wrong .signOfCharacter
  else if layout.isAlternate then
    wrong .alternateCharacter
  else if n < -(wordLimit + 1 : Int) || wordLimit < n then
    .error (.overflow (Text.of "Python int too large to convert to C long"))
  else if n < 0 || 0x110000 ≤ n then
    .error (.overflow (Text.of "%c arg not in range(0x110000)"))
  else
    layout.placeFigure 3 ⟨false, [], [], [CodePoint.ofNat n.natAbs]⟩

def layWhole (layout : Layout) (radix : Radix) (code : CodePoint) (n : Int) : Except Fault Text :=
  if radix = .decimal && (integerNumeral? n).isNone then
    .error .tooLongToWrite
  else
    let figure : Figure :=
      ⟨n < 0, if layout.isAlternate then radix.lead else [], radix.write n.natAbs, []⟩
    layout.placeFigure (groupSize code)
      (if code = CodePoint.ofChar 'X' then capitals figure else figure)

def radixOf? (code : CodePoint) : Option Radix :=
  if (Text.of "dn").contains code then some .decimal
  else if code = CodePoint.ofChar 'b' then some .binary
  else if code = CodePoint.ofChar 'o' then some .octal
  else if (Text.of "xX").contains code then some .hexadecimal
  else none

def layInteger (layout : Layout) (kind : Kind) (n : Int) : Except Fault Text :=
  let code := layout.code.getD zero
  let radix? := radixOf? code
  let isCodePoint := code = CodePoint.ofChar 'c'
  if radix?.isSome || isCodePoint then
    if layout.precision.isSome then
      wrong .precisionOfInteger
    else if layout.hidesNegativeZero then
      wrong .plainZeroOfInteger
    else
      match radix? with
      | some radix => layout.layWhole radix code n
      | none => layout.layCodePoint n
  else if layout.formOf?.isSome then do
    let x ← (Value.int n).toBinary64
    layout.layBinary64 kind x
  else
    wrong (.unknownCode code kind)

end Layout

def Value.laidOut (value : Value) (layout : Text) : Except Fault Text :=
  if layout.isEmpty then
    value.shown
  else
    match value with
    | .text t => do (← Layout.read .text layout).layText t
    | .int n => do (← Layout.read .int layout).layInteger .int n
    | .bool b => do (← Layout.read .bool layout).layInteger .bool (if b then 1 else 0)
    | .float x => do (← Layout.read .float layout).layBinary64 .float x
    | _ => .error .wrongKind

end ContainerDesk
