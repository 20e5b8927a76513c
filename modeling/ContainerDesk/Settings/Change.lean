import ContainerDesk.Journal.Entry
import ContainerDesk.Value.Display

/-!
# Changes of settings

What those who watch the settings are told: which setting got a value, what it was
before and what it is now.  A setting that got the value it had counts as told but
not as changed.
-/

namespace ContainerDesk

inductive Observer where
  /-- The one that notes every change in the journal. -/
  | changeJournal
  /-- The one that keeps the timers of the window in step. -/
  | refreshTimers
  /-- Anyone else, by a name of their own, with what the journal calls them. -/
  | outside (name label : Text)
deriving DecidableEq

def Observer.label : Observer → Text
  | .changeJournal => Text.of "<observer>"
  | .refreshTimers => Text.of "<callback>"
  | .outside _ label => label

structure Change where
  sectionName : Text
  key : Text
  old : Value
  new : Value

namespace Change

def settingName (change : Change) : Text :=
  change.sectionName ++ Text.of "." ++ change.key

def isReal (change : Change) : Bool :=
  !change.old.same change.new

/-- Is the setting in a section and its new value another one? -/
def concerns (change : Change) (sectionName : Text) : Bool :=
  change.sectionName = sectionName && change.isReal

/-- What the journal says about a change; nothing where the value stayed. -/
def notes (change : Change) : Journal :=
  if change.isReal then
    [{
      level := .info
      speaker := .observers
      message := Text.of "Setting " ++ change.settingName ++ Text.of " changed: " ++
        change.old.quoted.getD [] ++ Text.of " -> " ++ change.new.quoted.getD []
    }]
  else
    []

end Change

end ContainerDesk
