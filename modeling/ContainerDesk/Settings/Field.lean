import ContainerDesk.Fault
import ContainerDesk.Text.Blank

/-!
# Fields of the settings

A field has a default value and checks.  A check accepts a value or says what is
wrong with it; the first check that complains decides.  Truth values are no
integers here.
-/

namespace ContainerDesk

def addressSchemes : List Text :=
  [Text.of "unix", Text.of "tcp", Text.of "npipe", Text.of "http", Text.of "https", Text.of "ssh"]

def schemeMark : Text :=
  Text.of "://"

def addressPattern : Text :=
  Text.of "(|/\\S+|(unix|tcp|npipe|http|https|ssh)://\\S+)"

/-- One or more code points, none of them blank. -/
def isSolid (t : Text) : Bool :=
  !t.isEmpty && t.all fun c => !c.isBlank

def hasScheme (t scheme : Text) : Bool :=
  (scheme ++ schemeMark).isPrefixOf t && isSolid (t.drop (scheme ++ schemeMark).length)

/-- Is the text an engine address: nothing, a path, or a scheme with something after it? -/
def isAddress (t : Text) : Bool :=
  t.isEmpty || ((Text.of "/").isPrefixOf t && isSolid (t.drop 1)) ||
    addressSchemes.any (hasScheme t)

inductive Check where
  | ofKind (kind : Kind)
  | inRange (low high : Int)
  | oneOf (allowed : List Value)
  | address
  | listOf (kind : Kind)

namespace Check

def kindComplaint (expected : Kind) (value : Value) : Option Text :=
  if value.kind = expected then
    none
  else
    some (Text.of "expected " ++ expected.name ++ Text.of ", got " ++ value.kind.name)

def itemComplaint (expected : Kind) : List Value → Option Text
  | [] => none
  | item :: rest =>
      match kindComplaint expected item with
      | some complaint => some (Text.of "list item: " ++ complaint)
      | none => itemComplaint expected rest

/-- What is wrong with a value, if anything.  A value that would have to be shown and cannot be
is a fault. -/
def complaint (check : Check) (value : Value) : Except Fault (Option Text) :=
  match check with
  | .ofKind kind => .ok (kindComplaint kind value)
  | .inRange low high =>
      match value with
      | .int n =>
          if low ≤ n ∧ n ≤ high then
            .ok none
          else
            match integerNumeral? n, integerNumeral? low, integerNumeral? high with
            | some shown, some low, some high =>
                .ok (some (shown ++ Text.of " is outside [" ++ low ++ Text.of ", " ++ high ++
                  Text.of "]"))
            | _, _, _ => .error .tooLongToWrite
      | other => .ok (kindComplaint .int other)
  | .oneOf allowed =>
      if value.isOneOf allowed then
        .ok none
      else
        match value.quoted, (Value.list allowed).quoted with
        | some shown, some choices => .ok (some (shown ++ Text.of " is not one of " ++ choices))
        | _, _ => .error .tooLongToWrite
  | .address =>
      match value with
      | .text t =>
          if isAddress t then
            .ok none
          else
            .ok (some (t.quoted ++ Text.of " does not match " ++ addressPattern.quoted))
      | other => .ok (kindComplaint .text other)
  | .listOf kind =>
      match value with
      | .list items => .ok (itemComplaint kind items)
      | other => .ok (kindComplaint .list other)

end Check

structure Field where
  default : Value
  checks : List Check

def firstComplaint (value : Value) : List Check → Except Fault (Option Text)
  | [] => .ok none
  | check :: rest =>
      match check.complaint value with
      | .ok none => firstComplaint value rest
      | other => other

def Field.complaint (field : Field) (value : Value) : Except Fault (Option Text) :=
  firstComplaint value field.checks

end ContainerDesk
