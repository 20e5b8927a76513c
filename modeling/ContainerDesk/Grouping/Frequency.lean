import ContainerDesk.Value.Basic

/-!
# How many containers share a candidate

The index counts, for each candidate of a snapshot, the containers that have it.  A
container counts once for a candidate however often it is named.
-/

namespace ContainerDesk

namespace Grouping

/-- How often each candidate is shared; one without an entry counts zero. -/
abbrev Frequency := List (Text × Int)

namespace Frequency

def count (index : Frequency) (candidate : Text) : Int :=
  (index.lookup candidate).getD 0

def add (index : Frequency) (candidate : Text) : Frequency :=
  putEntry candidate (index.count candidate + 1) index

def ofCandidates (sets : List (List Text)) : Frequency :=
  sets.foldl (fun index candidates => (distinct candidates).foldl add index) []

end Frequency

end Grouping

end ContainerDesk
