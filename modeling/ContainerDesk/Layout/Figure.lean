import ContainerDesk.Layout.Basic
import ContainerDesk.Number.Rounded

/-!
# Fields

Putting what is written into a field of the width that a layout asks for.  A text goes
in whole.  A number goes in by parts, since zeros may fill the room between its sign
and its digits, and since its digits may stand in groups.
-/

namespace ContainerDesk

structure Figure where
  isNegative : Bool
  /-- What tells the radix. -/
  lead : Text
  /-- The digits before the point. -/
  digits : Text
  /-- The point and all after it, or the name of what has no digits. -/
  tail : Text

namespace Layout

def widest : Nat := 10000000

def row (c : CodePoint) (count : Nat) : Text :=
  List.replicate count c

/-- Two parts in a field; the sign ends the first one. -/
def place (layout : Layout) (before after : Text) : Except Fault Text :=
  let gap := layout.width - (before.length + after.length)
  if widest < gap then
    .error .tooLarge
  else
    let pad := row layout.fill gap
    match layout.alignment with
    | .left => .ok (before ++ after ++ pad)
    | .right => .ok (pad ++ before ++ after)
    | .centre =>
        .ok (row layout.fill (gap / 2) ++ before ++ after ++ row layout.fill (gap - gap / 2))
    | .afterSign => .ok (before ++ pad ++ after)

def grouped (mark : CodePoint) (size : Nat) : Text → Text
  | [] => []
  | [c] => [c]
  | c :: next :: rest =>
      if (rest.length + 1) % size = 0 then
        c :: mark :: grouped mark size (next :: rest)
      else
        c :: grouped mark size (next :: rest)

/-- How many digits fill a room, marks between groups counted; a mark never comes first. -/
def digitsToFill (size room : Nat) : Nat :=
  room - (room - 1) / (size + 1)

def zeroFilled (length : Nat) (digits : Text) : Text :=
  row zero (length - digits.length) ++ digits

/-- The digits as the layout groups them, with zeros for the room that is left to them. -/
def digitText (layout : Layout) (size room : Nat) (digits : Text) : Text :=
  if digits.isEmpty then
    []
  else
    match layout.separator with
    | none => zeroFilled room digits
    | some mark => grouped mark size (zeroFilled (digitsToFill size room) digits)

def signText (layout : Layout) (isNegative : Bool) : Text :=
  if isNegative then
    Text.of "-"
  else
    match layout.sign with
    | some .plus => Text.of "+"
    | some .space => Text.of " "
    | _ => []

def placeFigure (layout : Layout) (size : Nat) (figure : Figure) : Except Fault Text :=
  let before := layout.signText figure.isNegative ++ figure.lead
  let room :=
    if layout.fill = zero && layout.alignment = .afterSign then
      layout.width - (before.length + figure.tail.length)
    else
      0
  if widest < room then
    .error .tooLarge
  else
    layout.place before (layout.digitText size room figure.digits ++ figure.tail)

def placeText (layout : Layout) (t : Text) : Except Fault Text :=
  layout.place [] ((layout.precision.map fun count => t.take count).getD t)

end Layout

end ContainerDesk
