import ContainerDesk.Text.Blank

/-!
# Containers

One container of a snapshot, as the engine lists it.  Only the name, the identifier
and the state decide where it is grouped; the rest is shown as it is.
-/

namespace ContainerDesk

structure Container where
  id : Text
  name : Text
  state : Text
  image : Text
  status : Text
  ports : Text
deriving DecidableEq

namespace Container

def runningState : Text :=
  Text.of "running"

/-- The name without blanks around it, or the identifier where the name is blank. -/
def label (container : Container) : Text :=
  let name := container.name.trim
  if name.isEmpty then container.id.trim else name

def isRunning (container : Container) : Bool :=
  container.state = runningState

end Container

end ContainerDesk
