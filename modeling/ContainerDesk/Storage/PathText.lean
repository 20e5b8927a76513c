import ContainerDesk.Fault

/-!
# Path texts

The plain form of a path: no repeated slashes, no slash at the end, no parts that
are a single dot.  Two slashes at the very front are kept, three or more count as
one, and an empty path is a dot.  Parts that go up stay as they are.
-/

namespace ContainerDesk

namespace PathText

def slash : CodePoint := CodePoint.ofChar '/'

def rootPart (path : Text) : Text :=
  match (path.takeWhile (· = slash)).length with
  | 0 => []
  | 2 => Text.of "//"
  | _ => Text.of "/"

def parts (path : Text) : List Text :=
  (path.pieces slash).filter fun part => !part.isEmpty && part ≠ Text.of "."

def assemble (root : Text) (parts : List Text) : Text :=
  if root.isEmpty && parts.isEmpty then
    Text.of "."
  else
    root ++ Text.joinWith (Text.of "/") parts

def normalize (path : Text) : Text :=
  assemble (rootPart path) (parts path)

def child (path name : Text) : Text :=
  assemble (rootPart path) (parts path ++ parts name)

end PathText

/-- The home folder of a user.  One that starts with a tilde is not known. -/
def userHomePath (userHome : Text) : Except Fault Text :=
  let trimmed := (userHome.reverse.dropWhile (· = PathText.slash)).reverse
  if trimmed.head? = some (CodePoint.ofChar '~') then
    .error .noHome
  else
    .ok (PathText.normalize (if trimmed.isEmpty then Text.of "/" else trimmed))

/-- A text as it comes back from the environment, if that can hold it. -/
def environmentText (t : Text) : Except Fault Text :=
  match Disk.Cause.ofText? t with
  | some cause => .error (.refusedFile ⟨cause, t⟩)
  | none => .ok (SystemText.held t)

/-- The home folder of the desk, from what the environment says: the one that was chosen, or else
the user's own, which has to be known in both cases. -/
def homePath (chosen : Option Text) (userHome : Text) : Except Fault Text := do
  let chosen ← chosen.mapM environmentText
  let usual ← userHomePath (← environmentText userHome)
  .ok ((chosen.map PathText.normalize).getD usual)

def deskPath (home : Text) : Text :=
  PathText.child home (Text.of ".baydesk")

end ContainerDesk
