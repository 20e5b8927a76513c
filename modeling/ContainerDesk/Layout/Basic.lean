import ContainerDesk.Value.Number

/-!
# Layouts

A layout says how a value fills its field in a template: how wide the field is, where
the value stands in it and what fills the rest.  For numbers it also says which signs
are shown, how digits are grouped, how many of them there are and in which form.

A layout is spelled by its parts in a fixed order, each of which may be missing: the
fill and the alignment, the sign, a `z`, a `#`, a `0`, the width, the separator of
groups, a point with the precision, and a letter for the form.
-/

namespace ContainerDesk

inductive Alignment where
  | left
  | right
  | centre
  /-- On the right, its sign on the left. -/
  | afterSign
deriving DecidableEq

def Alignment.ofMark? (c : CodePoint) : Option Alignment :=
  if c.val = 60 then some .left
  else if c.val = 62 then some .right
  else if c.val = 94 then some .centre
  else if c.val = 61 then some .afterSign
  else none

inductive SignRule where
  | nothing
  | plus
  | space
deriving DecidableEq

def SignRule.ofMark? (c : CodePoint) : Option SignRule :=
  if c.val = 45 then some .nothing
  else if c.val = 43 then some .plus
  else if c.val = 32 then some .space
  else none

structure Layout where
  fill : CodePoint
  alignment : Alignment
  sign : Option SignRule
  /-- A negative number that is rounded to zero loses its sign. -/
  hidesNegativeZero : Bool
  /-- Numbers show what they leave out otherwise: their radix, or the point behind them. -/
  isAlternate : Bool
  width : Nat
  separator : Option CodePoint
  precision : Option Nat
  /-- The letter of the form. -/
  code : Option CodePoint

/-!
# Reading layouts

Each part is taken from the front of a text, which leaves the rest for the next part.
-/

def Template.numberLimit : Nat := 9223372036854775807

/-- The number at the front of a text, in digits of any script. -/
def Template.takeNumber (t : Text) : Except Fault (Option Nat × Text) :=
  let digits := t.takeWhile fun c => c.decimalValue?.isSome
  let number := digits.foldl (fun number c => 10 * number + c.decimalValue?.getD 0) 0
  if numberLimit < number then
    .error (.badTemplate .numberTooLong)
  else
    .ok (if digits.isEmpty then none else some number, t.drop digits.length)

namespace Layout

def takeAlignment (t : Text) : Option CodePoint × Option Alignment × Text :=
  match t with
  | [] => (none, none, [])
  | first :: rest =>
      match (rest.head?.bind Alignment.ofMark?), Alignment.ofMark? first with
      | some alignment, _ => (some first, some alignment, rest.drop 1)
      | none, some alignment => (none, some alignment, rest)
      | none, none => (none, none, t)

def takeSign (t : Text) : Option SignRule × Text :=
  match t.head?.bind SignRule.ofMark? with
  | some sign => (some sign, t.drop 1)
  | none => (none, t)

def takeMark (mark : CodePoint) (t : Text) : Bool × Text :=
  if t.head? = some mark then (true, t.drop 1) else (false, t)

/-- The separator of groups of three.  The low line is the one for all radixes. -/
def comma : CodePoint := CodePoint.ofChar ','

def zero : CodePoint := CodePoint.ofChar '0'

def takeSeparator (t : Text) : Except Fault (Option CodePoint × Text) :=
  let (hasComma, rest) := takeMark comma t
  let (hasLowLine, rest) := takeMark lowLine rest
  if hasLowLine && (hasComma || rest.head? = some comma) then
    .error (.badTemplate .bothSeparators)
  else
    .ok (if hasComma then some comma else if hasLowLine then some lowLine else none, rest)

def takePrecision (t : Text) : Except Fault (Option Nat × Text) :=
  let (hasPoint, rest) := takeMark (CodePoint.ofChar '.') t
  if hasPoint then
    match Template.takeNumber rest with
    | .error fault => .error fault
    | .ok (none, _) => .error (.badTemplate .missingPrecision)
    | .ok (some precision, rest) => .ok (some precision, rest)
  else
    .ok (none, t)

def usualCode : Kind → Option CodePoint
  | .text => some (CodePoint.ofChar 's')
  | .float => none
  | _ => some (CodePoint.ofChar 'd')

def zeroAlignment : Kind → Alignment
  | .text => .left
  | _ => .afterSign

def usualAlignment : Kind → Alignment
  | .text => .left
  | _ => .right

/-- Forms in powers of two, whose digits come in groups of four. -/
def isPowerCode (code : CodePoint) : Bool :=
  (Text.of "boxX").contains code

/-- Can the digits of a form be separated so?  The null character names no form. -/
def allowsSeparator (separator code : CodePoint) : Bool :=
  code.val = 0 || (Text.of "defgEG%F").contains code || (separator = lowLine && isPowerCode code)

/-- The form that a letter names for values of a kind.  The null character names the usual form
where that has no letter of its own. -/
def codeOf (kind : Kind) (letter : Option CodePoint) : Option CodePoint :=
  match letter, usualCode kind with
  | none, usual => usual
  | some letter, none => if letter.val = 0 then none else some letter
  | some letter, some _ => some letter

def read (kind : Kind) (t : Text) : Except Fault Layout := do
  let (fill, alignment, rest) := takeAlignment t
  let (sign, rest) := takeSign rest
  let (hidesNegativeZero, rest) := takeMark (CodePoint.ofChar 'z') rest
  let (isAlternate, rest) := takeMark (CodePoint.ofChar '#') rest
  let (hasZero, rest) := if fill.isNone then takeMark zero rest else (false, rest)
  let (width, rest) ← Template.takeNumber rest
  let (separator, rest) ← takeSeparator rest
  let (precision, rest) ← takePrecision rest
  if 1 < rest.length then
    .error (.badTemplate (.noLayout t kind))
  else
    let code := codeOf kind rest.head?
    let layout : Layout := {
      fill := if hasZero then zero else fill.getD (CodePoint.ofChar ' ')
      alignment := alignment.getD (if hasZero then zeroAlignment kind else usualAlignment kind)
      sign
      hidesNegativeZero
      isAlternate
      width := width.getD 0
      separator
      precision
      code
    }
    match separator, code with
    | some mark, some letter =>
        if allowsSeparator mark letter then
          .ok layout
        else
          .error (.badTemplate (.separatorWith mark letter))
    | _, _ => .ok layout

end Layout

end ContainerDesk
