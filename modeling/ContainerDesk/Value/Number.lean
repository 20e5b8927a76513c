import ContainerDesk.Fault
import ContainerDesk.Text.Blank
import ContainerDesk.Text.DecimalDigit

/-!
# Values as numbers

The integer and the binary64 number that a value stands for.  Texts are read
liberally: blanks around the number, decimal digits of all scripts and single low
lines between digits are accepted.  Octets are read in the same way, ASCII only.
-/

namespace ContainerDesk

/-- A text with the digits of all scripts as `0` to `9` and wide blanks as spaces.  What has no
place in a number becomes a question mark. -/
def plainNumberText (t : Text) : Text :=
  t.map fun c =>
    if c.val < 127 then
      c
    else if c.isBlank then
      CodePoint.ofChar ' '
    else
      match c.decimalValue? with
      | some value => digit value
      | none => CodePoint.ofChar '?'

/-- A space or one of the five controls from tab to carriage return. -/
def CodePoint.isPlainBlank (c : CodePoint) : Bool :=
  c.val = 32 || (9 ≤ c.val && c.val ≤ 13)

def trimPlain (t : Text) : Text :=
  ((t.dropWhile CodePoint.isPlainBlank).reverse.dropWhile CodePoint.isPlainBlank).reverse

def lowLine : CodePoint := CodePoint.ofChar '_'

/-- A text without low lines, if each of them stands between two digits. -/
def withoutLowLines? (previousIsDigit : Bool) : Text → Option Text
  | [] => some []
  | c :: rest =>
      if c = lowLine then
        match rest with
        | next :: _ =>
            if previousIsDigit && next.isDigit then withoutLowLines? false rest else none
        | [] => none
      else
        (withoutLowLines? c.isDigit rest).map (c :: ·)

def readSign (t : Text) : Bool × Text :=
  match t with
  | sign :: rest =>
      if sign.val = 45 then (true, rest) else if sign.val = 43 then (false, rest) else (false, t)
  | [] => (false, t)

inductive IntegerDefect where
  | notANumeral
  | tooLong (digits : Nat)

/-- The integer that a text spells.  The row of digits and low lines at its front counts first:
it has to be well formed, then to keep to the limit, then to be all there is. -/
def readInteger (t : Text) : Except IntegerDefect Int :=
  let (negative, rest) := readSign (trimPlain (plainNumberText t))
  let row := rest.takeWhile fun c => c.isDigit || c = lowLine
  match withoutLowLines? false row with
  | none => .error .notANumeral
  | some digits =>
      if digitLimit < digits.length then
        .error (.tooLong digits.length)
      else if digits.isEmpty || row.length < rest.length then
        .error .notANumeral
      else
        let size : Int := digitsValue digits
        .ok (if negative then -size else size)

def readSpecial? (negative : Bool) (t : Text) : Option Binary64 :=
  let word := t.map fun c => if 65 ≤ c.val && c.val ≤ 90 then CodePoint.ofNat (c.val + 32) else c
  if word = Text.of "inf" || word = Text.of "infinity" then
    some (.infinite negative)
  else if word = Text.of "nan" then
    some .nan
  else
    none

def readBinary64? (t : Text) : Option Binary64 :=
  match withoutLowLines? false (trimPlain (plainNumberText t)) with
  | some plain =>
      let (negative, rest) := readSign plain
      match readSpecial? negative rest with
      | some x => some x
      | none => Binary64.readUnsigned? negative rest
  | none => none

/-- Octets as the characters of a number; one beyond ASCII becomes a question mark. -/
def numberText (octets : List Octet) : Text :=
  octets.map fun o => if o.val < 128 then Octet.toCodePoint o else CodePoint.ofChar '?'

namespace Value

def shownLimit : Nat := 200

/-- The front of a row of octets, as far as a message can show it; other values are whole. -/
def front : Value → Value
  | .bytes octets => .bytes (octets.take shownLimit)
  | value => value

def notInteger (value : Value) : Fault :=
  .badValue (Text.of "invalid literal for int() with base 10: " ++
    (value.front.quoted.getD []).take shownLimit)

/-- The integer that a value stands for; the places after the point are cut off. -/
def toInteger (value : Value) : Except Fault Int :=
  match value with
  | .bool b => .ok (if b then 1 else 0)
  | .int n => .ok n
  | .float x =>
      match x with
      | .nan => .error (.badValue (Text.of "cannot convert float NaN to integer"))
      | .infinite _ => .error (.overflow (Text.of "cannot convert float infinity to integer"))
      | .finite .. => .ok (x.truncate?.getD 0)
  | .text t => integerFrom value t
  | .bytes octets => integerFrom value (numberText octets)
  | _ => .error .wrongKind
where
  /-- The integer that a text spells, with the value to blame where it spells none. -/
  integerFrom (value : Value) (t : Text) : Except Fault Int :=
    match readInteger t with
    | .ok n => .ok n
    | .error .notANumeral => .error value.notInteger
    | .error (.tooLong digits) => .error (.badValue (Fault.tooLongToRead digits))

def toBinary64 (value : Value) : Except Fault Binary64 :=
  match value with
  | .bool b => .ok (Binary64.ofInt (if b then 1 else 0))
  | .int n => fromInteger n
  | .float x => .ok x
  | .text t => binary64From value t
  | .bytes octets => binary64From value (numberText octets)
  | _ => .error .wrongKind
where
  /-- The number nearest to an integer, unless that is infinite. -/
  fromInteger (n : Int) : Except Fault Binary64 :=
    match Binary64.ofInt n with
    | .infinite _ => .error (.overflow (Text.of "int too large to convert to float"))
    | x => .ok x
  /-- The number that a text spells, with the value to blame where it spells none. -/
  binary64From (value : Value) (t : Text) : Except Fault Binary64 :=
    match readBinary64? t with
    | some x => .ok x
    | none =>
        .error (.badValue (Text.of "could not convert string to float: " ++ value.quoted.getD []))

/-- The number with one place after the point.  Only numbers can be shown so. -/
def onePlace (value : Value) : Except Fault Text :=
  match value with
  | .bool _ | .int _ | .float _ => value.toBinary64.map Binary64.writeOnePlace
  | .text _ => .error (.badTemplate (.unknownCode (CodePoint.ofChar 'f') .text))
  | _ => .error .wrongKind

end Value

end ContainerDesk
