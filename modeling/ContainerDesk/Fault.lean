import ContainerDesk.Engine.Failure
import ContainerDesk.Language.Defect
import ContainerDesk.Storage.Refusal
import ContainerDesk.Value.Display

/-!
# Faults

Everything that can go wrong in the desk, by its cause, and the wording of each.
Faults about the form of a value that no check has looked at carry no wording.
-/

namespace ContainerDesk

inductive Fault where
  /-- A section that does not exist, or a key that its section does not have. -/
  | unknownSetting (sectionName : Text) (key : Option Text)
  /-- A value that the checks of a setting refuse. -/
  | invalidSetting (name : Text) (value : Value) (reason : Text)
  /-- A settings file that cannot be read or written. -/
  | unusableFile (path reason : Text)
  /-- An operation on files that the disk refuses. -/
  | refusedFile (refusal : Disk.Refusal)
  /-- The engine cannot be reached or refuses. -/
  | engineUnavailable (reason : Text)
  /-- An engine call failed in a way that the desk does not expect. -/
  | engineFailed (failure : EngineFailure)
  /-- A value outside the domain of an operation. -/
  | badValue (reason : Text)
  /-- A template that cannot be filled as it stands. -/
  | badTemplate (defect : Template.Defect)
  /-- A number too large for its place. -/
  | overflow (reason : Text)
  /-- A text too long to be made. -/
  | tooLarge
  /-- No home folder to put the user's files in. -/
  | noHome
  /-- A text with surrogates where octets are needed. -/
  | unencodable (fault : Utf8.Unencodable)
  /-- Octets that are not UTF-8 where a text is needed. -/
  | undecodable (fault : Utf8.Malformed)
  /-- A value of a kind that an operation is not made for. -/
  | wrongKind
  /-- An operation that a value does not have. -/
  | noOperation
  /-- A key that a table does not have. -/
  | noKey
  /-- A place that a sequence does not have. -/
  | noElement
  /-- Work within work within work, without an end or beyond a limit. -/
  | nestingTooDeep (place : Text)

namespace Fault

def digitLimitReason : Text :=
  Text.of "Exceeds the limit (" ++ numeral digitLimit ++
    Text.of " digits) for integer string conversion"

def digitLimitAdvice : Text :=
  Text.of "; use sys.set_int_max_str_digits() to increase the limit"

def tooLongToWrite : Fault :=
  .badValue (digitLimitReason ++ digitLimitAdvice)

def tooLongToRead (digits : Nat) : Text :=
  digitLimitReason ++ Text.of ": value has " ++ numeral digits ++ Text.of " digits" ++
    digitLimitAdvice

/-- A refused value of a setting.  Where the value cannot be shown, the digit limit is the
fault. -/
def refused (name : Text) (value : Value) (reason : Text) : Fault :=
  match value.quoted with
  | some _ => .invalidSetting name value reason
  | none => tooLongToWrite

def message : Fault → Text
  | .unknownSetting sectionName key =>
      let name :=
        match key with
        | some key => if key.isEmpty then sectionName else sectionName ++ Text.of "." ++ key
        | none => sectionName
      Text.of "Unknown setting '" ++ name ++ Text.of "'"
  | .invalidSetting name value reason =>
      Text.of "Invalid value " ++ value.quoted.getD [] ++ Text.of " for '" ++ name ++
        Text.of "': " ++ reason
  | .unusableFile path reason =>
      Text.of "Cannot use settings file '" ++ path ++ Text.of "': " ++ reason
  | .refusedFile refusal => refusal.message
  | .engineUnavailable reason => reason
  | .engineFailed failure => failure.message
  | .badValue reason => reason
  | .badTemplate defect => defect.message
  | .overflow reason => reason
  | .tooLarge => []
  | .noHome => Text.of "Could not determine home directory."
  | .unencodable fault => fault.message
  | .undecodable fault => fault.message
  | .wrongKind => []
  | .noOperation => []
  | .noKey => []
  | .noElement => []
  | .nestingTooDeep place => Text.of "maximum recursion depth exceeded" ++ place

/-- Is the fault one of the settings or of their file? -/
def isAboutSettings : Fault → Bool
  | .unknownSetting .. | .invalidSetting .. | .unusableFile .. => true
  | _ => false

end Fault

namespace Value

/-- The value inside a longer text, or the digit limit as the fault. -/
def shown (value : Value) : Except Fault Text :=
  match value.display with
  | some t => .ok t
  | none => .error .tooLongToWrite

def shownQuoted (value : Value) : Except Fault Text :=
  match value.quoted with
  | some t => .ok t
  | none => .error .tooLongToWrite

end Value

end ContainerDesk
