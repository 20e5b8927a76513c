import ContainerDesk.Host.Load
import ContainerDesk.Language.Phrase

/-!
# The footer

Three texts: whether the engine can be reached, the load of the host, and the size of
the last snapshot.
-/

namespace ContainerDesk

structure Footer where
  engine : Text
  load : Text
  counts : Text
deriving DecidableEq

namespace Footer

def loadText (language : Language) (load : LoadTexts) : Text :=
  language.say .memory ++ Text.of ": " ++ load.memory ++ Text.of "   " ++
    language.say .processor ++ Text.of ": " ++ load.processor

def fresh (language : Language) : Footer :=
  {
    engine := language.say .engineRunning
    load := loadText language ⟨Text.of "N/A", Text.of "N/A"⟩
    counts := []
  }

def setEngine (footer : Footer) (language : Language) (reachable : Bool) : Footer :=
  { footer with engine := language.say (if reachable then .engineRunning else .engineStopped) }

def setLoad (footer : Footer) (language : Language) (load : LoadTexts) : Footer :=
  { footer with load := loadText language load }

/-- The footer after a snapshot, with the texts of two numbers: how many containers it has, and how
many groups. -/
def setCounts (footer : Footer) (containers groups : Text) : Footer :=
  { footer with counts := containers ++ Text.of " / " ++ groups }

end Footer

end ContainerDesk
