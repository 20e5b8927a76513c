import ContainerDesk.Engine.LoginCommand
import ContainerDesk.Proofs.Text.Basic
import ContainerDesk.Proofs.Text.ShellWord

/-!
# What the shell makes of a login command

Whatever a container is called, the login command is five words for the shell, of which
the fourth one is the container.  It is the label of the container, unless the name is
blank and the identifier has blanks around it, which the label is without.
-/

namespace ContainerDesk

namespace Container

theorem loginCommand_eq_joinWith (container : Container) :
    container.loginCommand usualShell =
      Text.joinWith (Text.of " ") ([Text.of "docker", Text.of "exec", Text.of "-it",
        container.commandTarget, Text.of "sh"].map Text.shellQuoted) := by
  have hdocker : (Text.of "docker").shellQuoted = Text.of "docker" := rfl
  have hexec : (Text.of "exec").shellQuoted = Text.of "exec" := rfl
  have hflag : (Text.of "-it").shellQuoted = Text.of "-it" := rfl
  have hshell : (Text.of "sh").shellQuoted = usualShell := rfl
  have hfront : Text.of "docker exec -it " = Text.of "docker" ++ Text.of " " ++ (Text.of "exec" ++
    Text.of " " ++ (Text.of "-it" ++ Text.of " ")) := rfl
  simp only [loginCommand, List.map_cons, List.map_nil, Text.joinWith, hdocker, hexec, hflag,
    hshell, hfront, List.append_assoc]

theorem commandTarget_eq_label_iff (container : Container) :
    container.commandTarget = container.label ↔
      container.name.trim ≠ [] ∨ container.id.trim = container.id := by
  by_cases hname : container.name.trim = []
  · simp [commandTarget, label, hname, eq_comm]
  · simp [commandTarget, label, hname]

/-- The shell splits the login command of a container into five words and expands nothing in it.
The fourth word is the name without blanks around it, or the identifier as it is where the name is
blank. -/
theorem shellWords?_loginCommand (container : Container) :
    shellWords? (container.loginCommand usualShell) =
        some [Text.of "docker", Text.of "exec", Text.of "-it", container.commandTarget,
          Text.of "sh"] ∧
      container.commandTarget =
        (if container.name.trim = [] then container.id else container.name.trim) ∧
      (container.commandTarget = container.label ↔
        container.name.trim ≠ [] ∨
          ((∀ c ∈ container.id.head?, c.isBlank = false) ∧
            ∀ c ∈ container.id.getLast?, c.isBlank = false)) := by
  refine ⟨?_, ?_, ?_⟩
  · rw [loginCommand_eq_joinWith]
    exact shellWords?_joinWith _
  · simp only [commandTarget, List.isEmpty_iff]
  · rw [commandTarget_eq_label_iff, Text.trim_eq_self]

end Container

end ContainerDesk
