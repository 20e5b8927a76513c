import ContainerDesk.Grouping.Frequency

/-!
# The choice of a group key

Of the candidates that at least two containers share, the one shared most often
wins, of those the longest, of those the earliest.  A container that shares
nothing keeps its label.
-/

namespace ContainerDesk

namespace Grouping

def leastShared : Int := 2

def isEligible (index : Frequency) (candidate : Text) : Bool :=
  leastShared ≤ index.count candidate

/-- Is one candidate preferred to another: shared more often, or as often and longer? -/
def outranks (index : Frequency) (candidate other : Text) : Bool :=
  index.count other < index.count candidate ||
    (index.count other = index.count candidate && other.length < candidate.length)

/-- The better of the best candidate so far and the next one.  The next one has to outrank
it, so an earlier candidate wins a tie. -/
def better (index : Frequency) (best : Option Text) (candidate : Text) : Option Text :=
  if isEligible index candidate then
    match best with
    | none => some candidate
    | some leader => if outranks index candidate leader then some candidate else some leader
  else
    best

def selectKey (label : Text) (candidates : List Text) (index : Frequency) : Text :=
  (candidates.foldl (better index) none).getD label

end Grouping

end ContainerDesk
