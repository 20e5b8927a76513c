import ContainerDesk.Container

/-!
# Candidates for a group key

The names under which a container may be grouped: its own name, the name without
an instance number, and what stands in front of each separator.  Two containers
belong together when they share such a name.

The first segment of a label is the shortest candidate.
-/

namespace ContainerDesk

def CodePoint.isSeparator (c : CodePoint) : Bool :=
  c.val = 45 || c.val = 95

namespace Grouping

/-- A name without the separator and the digits `0` to `9` at its end. -/
def stripInstanceNumber (name : Text) : Text :=
  let reversed := name.reverse
  match reversed.dropWhile CodePoint.isDigit with
  | [] => name
  | c :: before =>
      if c.isSeparator && !(reversed.takeWhile CodePoint.isDigit).isEmpty then
        before.reverse
      else
        name

/-- What stands in front of each separator of `rest`, from left to right, where `seen` stands
in front of `rest`.  Nothing at all is no candidate. -/
def separatedPrefixes (seen : Text) : Text → List Text
  | [] => []
  | c :: rest =>
      let later := separatedPrefixes (seen ++ [c]) rest
      if c.isSeparator && !seen.isEmpty then seen :: later else later

/-- The candidates for a name, without repeats, in their fixed order. -/
def candidates (name : Text) : List Text :=
  let whole := name.trim
  if whole.isEmpty then
    []
  else
    distinct ([whole] ++ [stripInstanceNumber whole].filter (!·.isEmpty) ++
      separatedPrefixes [] whole)

def candidatesOf (container : Container) : List Text :=
  candidates container.label

/-- The start of a label up to its first separator, or all of it; a separator at the very
front belongs to the segment. -/
def firstSegment : Text → Text
  | [] => []
  | c :: rest => c :: rest.takeWhile fun d => !d.isSeparator

end Grouping

end ContainerDesk
