import ContainerDesk.Container
import ContainerDesk.Text.ShellWord

/-!
# The login command

A line for a shell that opens a shell inside a container.  Whatever the container is
called, its name is one word of the line.
-/

namespace ContainerDesk

namespace Container

def usualShell : Text :=
  Text.of "sh"

def commandTarget (container : Container) : Text :=
  let name := container.name.trim
  if name.isEmpty then container.id else name

def loginCommand (container : Container) (shell : Text) : Text :=
  Text.of "docker exec -it " ++ container.commandTarget.shellQuoted ++ Text.of " " ++ shell

end Container

end ContainerDesk
