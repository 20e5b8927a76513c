import ContainerDesk.Grouping.Candidate
import ContainerDesk.Grouping.Group
import ContainerDesk.Grouping.Selection
import ContainerDesk.Journal.Entry

/-!
# The groups of a snapshot

All containers of a snapshot are grouped at once: the candidates of all of them are
counted, then each container chooses its key.
-/

namespace ContainerDesk

namespace Grouping

def indexOf (containers : List Container) : Frequency :=
  Frequency.ofCandidates (containers.map candidatesOf)

def keyIn (containers : List Container) (container : Container) : Text :=
  selectKey container.label (candidatesOf container) (indexOf containers)

def keysOf (containers : List Container) : List Text :=
  let index := indexOf containers
  containers.map fun container => selectKey container.label (candidatesOf container) index

theorem length_keysOf (containers : List Container) :
    containers.length = (keysOf containers).length := by
  simp [keysOf]

theorem isSome_buildGroups (containers : List Container) :
    (buildGroups containers (keysOf containers)).toOption.isSome = true := by
  rw [buildGroups, if_neg (not_not_intro (length_keysOf containers)), groupsOf_eq_ok]
  rfl

def groupContainers (containers : List Container) : List Group :=
  (buildGroups containers (keysOf containers)).toOption.get (isSome_buildGroups containers)

def groupingEntry (containers : List Container) (groups : List Group) : Entry :=
  {
    level := .debug
    speaker := .grouping
    message := Text.of "Grouped " ++ numeral containers.length ++ Text.of " containers into " ++
      numeral groups.length ++ Text.of " groups"
  }

end Grouping

end ContainerDesk
