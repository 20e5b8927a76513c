import ContainerDesk.Language.Class
import ContainerDesk.Layout.Value

/-!
# References

What the name of a field refers to.  A name starts with the key of a value, and steps may
follow that go into the value: a point and an attribute, or an element in brackets.  The
steps are taken one by one, so a step that leads nowhere counts before one that is badly
spelled after it.
-/

namespace ContainerDesk

namespace Template

/-- What a field shows. -/
inductive Subject where
  | value (v : Value)
  | single (c : Class)
  /-- Classes in a row. -/
  | row (classes : List Class)
  /-- A class with an argument. -/
  | applied (c : Class) (argument : Value)

namespace Subject

def shownQuoted : Subject → Except Fault Text
  | .value v => v.shownQuoted
  | .single c => .ok c.shown
  | .row classes => .ok (rowText classes)
  | .applied c argument =>
      argument.shownQuoted.map fun t => c.name ++ Text.of "[" ++ t ++ Text.of "]"

def shown (subject : Subject) : Except Fault Text :=
  match subject with
  | .value v => v.shown
  | other => other.shownQuoted

/-- The subject in a field.  Only values can be laid out. -/
def laidOut (subject : Subject) (layout : Text) : Except Fault Text :=
  match subject with
  | .value v => v.laidOut layout
  | other => if layout.isEmpty then other.shown else .error .wrongKind

/-- The attribute of a number that is a part of it: its real and its imaginary part, and for
whole numbers also numerator and denominator. -/
def numberPart? (whole : Bool) (itself zero one : Value) (name : Text) : Option Value :=
  if name = Text.of "real" then some itself
  else if name = Text.of "imag" then some zero
  else if whole && name = Text.of "numerator" then some itself
  else if whole && name = Text.of "denominator" then some one
  else none

def partNamed? (v : Value) (name : Text) : Option Value :=
  match v with
  | .bool b => numberPart? true (.int (if b then 1 else 0)) (.int 0) (.int 1) name
  | .int n => numberPart? true (.int n) (.int 0) (.int 1) name
  | .float x => numberPart? false (.float x) (.float (Binary64.zero false)) .null name
  | _ => none

/-- An attribute that the values of a class share with the class: the lack of a description or
of a hash. -/
def lackOf? (c : Class) (name : Text) : Option Value :=
  if name = Text.of "__doc__" && c = .ofKind .null then some .null
  else if name = Text.of "__hash__" && c.isChangeable then some .null
  else none

def ofValue? (v : Value) (name : Text) : Option Subject :=
  let c := Class.ofKind v.kind
  if name = Text.of "__class__" then some (.single c)
  else ((partNamed? v name).or (lackOf? c name)).map .value

/-- An attribute of a class that does not depend on what the class is of. -/
def ofClass? (c : Class) (name : Text) : Option Subject :=
  if name = Text.of "__class__" then some (.single .ofClasses)
  else if name = Text.of "__name__" || name = Text.of "__qualname__" then
    some (.value (.text c.name))
  else if name = Text.of "__module__" then some (.value (.text c.home))
  else if name = Text.of "__mro__" then some (.row c.line)
  else if name = Text.of "__bases__" then some (.row c.above?.toList)
  else if name = Text.of "__base__" then some ((c.above?.map .single).getD (.value .null))
  else (lackOf? c name).map .value

/-- An attribute of a class with an argument; those that it has not are those of the class. -/
def ofApplied? (c : Class) (argument : Value) (name : Text) : Option Subject :=
  if name = Text.of "__class__" then some (.single .ofApplied)
  else if name = Text.of "__origin__" then some (.single c)
  else if name = Text.of "__args__" then some (.value (.tuple [argument]))
  else if name = Text.of "__parameters__" then some (.value (.tuple []))
  else if name = Text.of "__unpacked__" then some (.value (.bool false))
  else ofClass? c name

def attributeNamed (subject : Subject) (name : Text) : Except Fault Subject :=
  let found :=
    match subject with
    | .value v => ofValue? v name
    | .single c => ofClass? c name
    | .row _ => if name = Text.of "__class__" then some (.single (.ofKind .tuple)) else none
    | .applied c argument => ofApplied? c argument name
  match found with
  | some next => .ok next
  | none => .error .noOperation

def applying (c : Class) (argument : Value) : Except Fault Subject :=
  if c.takesArgument then .ok (.applied c argument) else .error .wrongKind

def itemAt (items : List Subject) (index : Nat) : Except Fault Subject :=
  match items[index]? with
  | some item => .ok item
  | none => .error .noElement

def element (subject : Subject) (index : Nat) : Except Fault Subject :=
  match subject with
  | .value (.list items) => itemAt (items.map .value) index
  | .value (.tuple items) => itemAt (items.map .value) index
  | .value (.text t) => itemAt (t.map fun c => .value (.text [c])) index
  | .value (.bytes octets) => itemAt (octets.map fun (o : Octet) => .value (.int o.val)) index
  | .value (.table _) => .error .noKey
  | .row classes => itemAt (classes.map .single) index
  | .single c => applying c (.int index)
  | _ => .error .wrongKind

def entry (subject : Subject) (key : Text) : Except Fault Subject :=
  match subject with
  | .value (.table entries) =>
      match entries.lookup key with
      | some v => .ok (.value v)
      | none => .error .noKey
  | .single c => applying c (.text key)
  | _ => .error .wrongKind

end Subject

/-!
# Steps
-/

def openBracket : CodePoint := CodePoint.ofChar '['

def closeBracket : CodePoint := CodePoint.ofChar ']'

def point : CodePoint := CodePoint.ofChar '.'

def beginsStep (c : CodePoint) : Bool :=
  c = point || c = openBracket

/-- The number that a name is, if it is nothing but digits.  A row of digits at its front must
keep to the limit even if other things follow. -/
def numberOf? (name : Text) : Except Fault (Option Nat) :=
  match takeNumber name with
  | .error fault => .error fault
  | .ok (number, rest) => .ok (if rest.isEmpty then number else none)

def takeStep (subject : Subject) : Text → Except Fault (Subject × Text)
  | [] => .ok (subject, [])
  | c :: rest =>
      if c = point then
        let name := rest.takeWhile fun c => !beginsStep c
        if name.isEmpty then
          .error (.badTemplate .emptyStep)
        else
          (subject.attributeNamed name).map fun next => (next, rest.drop name.length)
      else if c = openBracket then
        let name := rest.takeWhile fun c => c ≠ closeBracket
        if name.length = rest.length then
          .error (.badTemplate .unclosedBracket)
        else
          match numberOf? name with
          | .error fault => .error fault
          | .ok number =>
              let next :=
                if name.isEmpty then
                  .error (.badTemplate .emptyStep)
                else
                  match number with
                  | some index => subject.element index
                  | none => subject.entry name
              next.map fun next => (next, rest.drop (name.length + 1))
      else
        .error (.badTemplate .strayAfterBracket)

def takeSteps : (bound : Nat) → Subject → Text → Except Fault Subject
  | 0, subject, _ => .ok subject
  | _, subject, [] => .ok subject
  | bound + 1, subject, c :: rest =>
      match takeStep subject (c :: rest) with
      | .error fault => .error fault
      | .ok (next, after) => takeSteps bound next after

/-- What a name refers to among values with keys.  Values are not numbered. -/
def refer (values : List (Text × Value)) (name : Text) : Except Fault Subject :=
  let key := name.takeWhile fun c => !beginsStep c
  let steps := name.drop key.length
  match numberOf? key with
  | .error fault => .error fault
  | .ok number =>
      if key.isEmpty || number.isSome then
        .error .noElement
      else
        match values.lookup key with
        | some value => takeSteps steps.length (.value value) steps
        | none => .error .noKey

end Template

end ContainerDesk
