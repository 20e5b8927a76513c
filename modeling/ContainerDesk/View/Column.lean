import ContainerDesk.Container

/-!
# Columns

A column shows a text of a container.  Where it is empty, a hyphen stands for it.
-/

namespace ContainerDesk

structure Column where
  header : Text
  shows : Container → Text

def Column.cell (column : Column) (container : Container) : Text :=
  let text := column.shows container
  if text.isEmpty then Text.of "-" else text

end ContainerDesk
