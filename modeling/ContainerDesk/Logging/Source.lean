import ContainerDesk.Text.Basic

/-!
# Sources of messages

A message comes from a named source.  The name of a source is divided by dots, and what
comes before a dot is the name of a source that it stands below.  Of dots side by side
the last one divides and the one before it does not, but where the name between them is
a source that is known, the way goes on from there as it does for that source.  A dot at
the very front never divides.

Two sources are talkative: they send a message for each request.
-/

namespace ContainerDesk

namespace Source

def dot : CodePoint := CodePoint.ofChar '.'

def talkative : List Text :=
  [Text.of "urllib3", Text.of "docker"]

/-- Does a source stand below a talkative one?  Its name is read from the end. -/
def isBelowTalkative (known : List Text) : (reversedName : Text) → Bool
  | [] => false
  | [_] => false
  | c :: d :: rest =>
      if c = dot then
        let above := (d :: rest).reverse
        if talkative.contains above then
          true
        else if known.contains above then
          isBelowTalkative known (d :: rest)
        else
          isBelowTalkative known rest
      else
        isBelowTalkative known (d :: rest)

def isTalkative (known : List Text) (source : Text) : Bool :=
  talkative.contains source || isBelowTalkative known source.reverse

/-- The name of a source in a line; the one without a name is the root. -/
def label (source : Text) : Text :=
  if source.isEmpty then Text.of "root" else source

end Source

end ContainerDesk
