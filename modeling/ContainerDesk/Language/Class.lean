import ContainerDesk.Fault

/-!
# Classes

What a reference reaches when it asks what a value is.  The values of a kind make a
class, and so do classes themselves.  Each class but the last has a class above it, and
the classes on the way up to the last make its line.
-/

namespace ContainerDesk

namespace Template

/-- A class of values, or of classes. -/
inductive Class where
  | ofKind (kind : Kind)
  /-- The class above all others. -/
  | ofAll
  /-- The class of the classes. -/
  | ofClasses
  /-- The class of the classes with an argument. -/
  | ofApplied
deriving DecidableEq

namespace Class

def name : Class → Text
  | .ofKind kind => kind.name
  | .ofAll => Text.of "object"
  | .ofClasses => Text.of "type"
  | .ofApplied => Text.of "GenericAlias"

def home : Class → Text
  | .ofApplied => Text.of "types"
  | _ => Text.of "builtins"

def shown (c : Class) : Text :=
  let lead := if c = .ofApplied then c.home ++ Text.of "." else []
  Text.of "<class '" ++ lead ++ c.name ++ Text.of "'>"

def above? : Class → Option Class
  | .ofAll => none
  | .ofKind .bool => some (.ofKind .int)
  | _ => some .ofAll

def line (c : Class) : List Class :=
  match c.above? with
  | none => [c]
  | some .ofAll => [c, .ofAll]
  | some next => [c, next, .ofAll]

def takesArgument (c : Class) : Bool :=
  c = .ofClasses || c = .ofKind .list || c = .ofKind .tuple || c = .ofKind .table

/-- Are values of the class without a hash, because they can change? -/
def isChangeable (c : Class) : Bool :=
  c = .ofKind .list || c = .ofKind .table

end Class

def rowText (classes : List Class) : Text :=
  match classes with
  | [c] => Text.of "(" ++ c.shown ++ Text.of ",)"
  | _ => Text.of "(" ++ Text.joinWith (Text.of ", ") (classes.map Class.shown) ++ Text.of ")"

end Template

end ContainerDesk
