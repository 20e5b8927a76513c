import ContainerDesk.Fault
import ContainerDesk.Journal.Entry

/-!
# Thresholds of the journal

The names of the levels from which on messages are let through.  Case does not
matter.  Besides the letters `a` to `z` two more have a capital among the letters of
these names: the small letter without a dot for `I`, and the long one for `S`.
-/

namespace ContainerDesk

namespace Threshold

/-- The capital of a letter, as far as the names of the levels need it. -/
def capital (c : CodePoint) : CodePoint :=
  if 97 ≤ c.val && c.val ≤ 122 then
    CodePoint.ofNat (c.val - 32)
  else if c.val = 0x131 then
    CodePoint.ofChar 'I'
  else if c.val = 0x17F then
    CodePoint.ofChar 'S'
  else
    c

def names : List (Text × Int) :=
  [(Text.of "CRITICAL", 50), (Text.of "FATAL", 50), (Text.of "ERROR", 40),
    (Text.of "WARNING", 30), (Text.of "WARN", 30), (Text.of "INFO", 20), (Text.of "DEBUG", 10),
    (Text.of "NOTSET", 0)]

def ofName (name : Text) : Except Fault Int :=
  match names.lookup (name.map capital) with
  | some number => .ok number
  | none => .error (.badValue (Text.of "Unknown log level: " ++ name))

def ofValue : Value → Except Fault Int
  | .text name => ofName name
  | _ => .error .noOperation

def label (number : Int) : Text :=
  match names.find? fun entry => entry.2 = number with
  | some (name, _) => name
  | none => Text.of "Level " ++ integerNumeral number

end Threshold

end ContainerDesk
