import ContainerDesk.Container
import ContainerDesk.Fault

/-!
# What the engine says about a container

The engine lists each container as a table.  The desk takes what it needs from it and
is content with missing entries; a form that it cannot take apart at all is a fault.
-/

namespace ContainerDesk

namespace Summary

def found? (entries : List (Text × Value)) (key : String) : Option Value :=
  entries.lookup (Text.of key)

def entry (entries : List (Text × Value)) (key : String) : Value :=
  (found? entries key).getD .null

/-- The text of an entry; what does not count as true has no text. -/
def textOf (entries : List (Text × Value)) (key : String) : Except Fault Text :=
  ((entry entries key).orElse (.text [])).shown

def withoutSlashes (t : Text) : Text :=
  t.dropWhile fun c => c.val = 47

def nameIn : Value → Except Fault Text
  | .text t => .ok (withoutSlashes t)
  | .bytes _ => .error .wrongKind
  | _ => .error .noOperation

def firstName (names : Value) : Except Fault Text :=
  if names.isTruthy then
    match names with
    | .list (first :: _) | .tuple (first :: _) => nameIn first
    | .text (first :: _) => .ok (withoutSlashes [first])
    | .bytes _ => .error .noOperation
    | .table _ => .error .noKey
    | _ => .error .wrongKind
  else
    .ok []

/-- The elements that a sequence gives one by one, if it is one. -/
def elements? : Value → Option (List Value)
  | .list items | .tuple items => some items
  | .text t => some (t.map fun c => .text [c])
  | .bytes octets => some (octets.map fun o => .int o.val)
  | .table entries => some (entries.map fun entry => .text entry.1)
  | _ => none

def everywhere : Text :=
  Text.of "0.0.0.0"

def portText : Value → Except Fault Text
  | .table entries => do
      let number ← (entry entries "PrivatePort").shown
      let kind ← ((found? entries "Type").getD (.text (Text.of "tcp"))).shown
      let inner := number ++ Text.of "/" ++ kind
      let published := entry entries "PublicPort"
      if published.isTruthy then
        let address ← ((entry entries "IP").orElse (.text everywhere)).shown
        let outer ← published.shown
        .ok (address ++ Text.of ":" ++ outer ++ Text.of "->" ++ inner)
      else
        .ok inner
  | _ => .error .noOperation

def portTexts : List Value → Except Fault (List Text)
  | [] => .ok []
  | port :: rest => do
      let first ← portText port
      let others ← portTexts rest
      .ok (first :: others)

/-- The ports of a container as one text, each way of reaching them once. -/
def formatPorts (ports : Value) : Except Fault Text :=
  match elements? ports with
  | none => .error .wrongKind
  | some items => (portTexts items).map fun texts =>
      Text.joinWith (Text.of ", ") (distinct texts)

/-- How many code points of an identifier the desk shows. -/
def shortLength : Nat := 12

def toContainer : Value → Except Fault Container
  | .table entries => do
      let name ← firstName (entry entries "Names")
      let id ← ((found? entries "Id").getD (.text [])).shown
      let state ← textOf entries "State"
      let image ← textOf entries "Image"
      let status ← textOf entries "Status"
      let ports ← formatPorts ((entry entries "Ports").orElse (.list []))
      .ok { id := id.take shortLength, name, state, image, status, ports }
  | _ => .error .noOperation

def toContainers : List Value → Except Fault (List Container)
  | [] => .ok []
  | summary :: rest => do
      let first ← toContainer summary
      let others ← toContainers rest
      .ok (first :: others)

end Summary

end ContainerDesk
