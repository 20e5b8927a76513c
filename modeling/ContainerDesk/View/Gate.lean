import ContainerDesk.Fault
import ContainerDesk.Journal.Entry

/-!
# The gate for snapshots

Requests for snapshots are numbered from one, and their results may come in any
order.  The gate lets a result through if it is newer than all that were let through
before; a failure counts as a result like any other.
-/

namespace ContainerDesk

/-- How many requests were numbered, and the newest result that was let through. -/
structure Gate where
  requested : Nat
  applied : Nat
deriving DecidableEq

namespace Gate

def fresh : Gate :=
  ⟨0, 0⟩

def hasApplied (gate : Gate) : Bool :=
  0 < gate.applied

def next (gate : Gate) : Nat × Gate :=
  (gate.requested + 1, { gate with requested := gate.requested + 1 })

def staleEntry (gate : Gate) (generation : Int) : Entry :=
  {
    level := .debug
    speaker := .gate
    message := Text.of "Discarding stale snapshot " ++ integerNumeral generation ++
      Text.of " (applied " ++ numeral gate.applied ++ Text.of ")"
  }

/-- Lets the result of a request through or not; a number that was never given out is a
fault. -/
def accept (gate : Gate) (generation : Int) : Except Fault (Bool × Gate × Journal) :=
  if gate.requested < generation then
    .error (.badValue
      (Text.of "Generation " ++ integerNumeral generation ++ Text.of " was never requested"))
  else if generation ≤ gate.applied then
    .ok (false, gate, [gate.staleEntry generation])
  else
    .ok (true, { gate with applied := generation.toNat }, [])

end Gate

end ContainerDesk
