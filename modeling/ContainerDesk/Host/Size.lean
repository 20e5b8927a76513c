import ContainerDesk.Number.Decimal

/-!
# Sizes

A size in the largest unit in which it is at least one, with one place after the
point.  Beyond the last unit the numbers grow.
-/

namespace ContainerDesk

namespace Size

/-- How many of one unit make one of the next. -/
def step : Nat := 1024

def firstUnit : Text :=
  Text.of "B"

def higherUnits : List Text :=
  [Text.of "KB", Text.of "MB", Text.of "GB", Text.of "TB"]

/-- An amount of a unit, scaled up to the larger units as far as it reaches them. -/
def scale (amount : Binary64) (unit : Text) : List Text → Binary64 × Text
  | [] => (amount, unit)
  | next :: larger =>
      if amount.atLeast step then
        scale (amount.divide step) next larger
      else
        (amount, unit)

def text (octets : Binary64) : Text :=
  let (amount, unit) := scale octets firstUnit higherUnits
  amount.writeOnePlace ++ Text.of " " ++ unit

end Size

end ContainerDesk
