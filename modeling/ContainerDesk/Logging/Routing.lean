import ContainerDesk.Action
import ContainerDesk.Journal.Threshold
import ContainerDesk.Logging.Rotation
import ContainerDesk.Logging.Source
import ContainerDesk.Settings.Section
import ContainerDesk.Value.Number

/-!
# Routing of messages

Which messages reach the log file and the console.  A message comes from a named
source and has a level.  The threshold of the desk holds for all sources but the two
talkative ones and what stands below them, which have a threshold of their own.

Setting the routing up anew replaces all that was set up before, so the last set-up
alone decides.  Whether messages of one source and one level pass is decided once: it
stays so until the routing is set up anew.
-/

namespace ContainerDesk

inductive LogTarget where
  | file (file : LogFile)
  | console
deriving DecidableEq

structure Routing where
  /-- The least level of a message. -/
  threshold : Int
  /-- The least level of a message from a talkative source; zero where none was set. -/
  talkativeThreshold : Int
  /-- Messages up to this level are dropped wherever they come from. -/
  silencedUpTo : Int
  targets : List LogTarget
deriving DecidableEq

namespace Routing

def unset : Routing :=
  ⟨30, 0, 0, []⟩

/-- The level up to which nothing passes while messages are switched off. -/
def silence : Int := 50

def thresholdFor (routing : Routing) (known : List Text) (source : Text) : Int :=
  if Source.isTalkative known source && routing.talkativeThreshold ≠ 0 then
    routing.talkativeThreshold
  else
    routing.threshold

def admits (routing : Routing) (known : List Text) (source : Text) (level : Int) : Bool :=
  routing.silencedUpTo < level && routing.thresholdFor known source ≤ level

def line (stamp source : Text) (level : Int) (message : Text) : Text :=
  stamp ++ Text.of " | " ++ Threshold.label level ++ Text.of " | " ++ Source.label source ++
    Text.of " | " ++ message ++ Text.of "\n"

def silenced (routing : Routing) : Routing :=
  { routing with silencedUpTo := silence }

/-- The routing that drops no messages but for their thresholds. -/
def unsilenced (routing : Routing) : Routing :=
  { routing with silencedUpTo := 0 }

def toFile (routing : Routing) (file : LogFile) (threshold : Int) : Routing :=
  { routing with
    threshold
    talkativeThreshold := max threshold 30
    targets := [.file file, .console] }

end Routing

structure LogBook where
  disk : Disk
  routing : Routing
  /-- The sources that messages came from so far. -/
  known : List Text
  /-- What was decided since the routing was set up. -/
  verdicts : List ((Text × Int) × Bool)

namespace LogBook

def fresh (disk : Disk) (routing : Routing) : LogBook :=
  ⟨disk, routing, [], []⟩

def reroute (book : LogBook) (routing : Routing) : LogBook :=
  { book with routing, verdicts := [] }

/-- Writes a line to a target.  What the console shows is not kept. -/
def write (line : Text) (disk : Disk) : LogTarget → Disk
  | .file file => file.append line disk
  | .console => disk

def verdict (book : LogBook) (source : Text) (level : Int) : Bool :=
  (book.verdicts.lookup (source, level)).getD
    (book.routing.admits (source :: book.known) source level)

def remember (book : LogBook) (source : Text) (level : Int) : LogBook :=
  { book with
    known := if book.known.contains source then book.known else source :: book.known
    verdicts := ((source, level), book.verdict source level) :: book.verdicts }

def deliver (book : LogBook) (line : Text) : LogBook :=
  { book with disk := book.routing.targets.foldl (write line) book.disk }

def emit (stamp : Text) (book : LogBook) (source : Text) (level : Int) (message : Text) :
    LogBook :=
  if book.verdict source level then
    (book.remember source level).deliver (Routing.line stamp source level message)
  else
    book.remember source level

def emitAll (stamp : Text) (book : LogBook) (entries : Journal) : LogBook :=
  entries.foldl
    (fun book entry => book.emit stamp entry.speaker.name entry.level.number entry.message) book

def usualName : Text :=
  Text.of "baydesk.log"

def usualLevel : Text :=
  Text.of "INFO"

def limitUnit : Int := 1024 * 1024

def usualLimit : Int := 10 * limitUnit

def usualArchived : Int := 5

/-- Sets the routing up: a log file that a path below a folder names, and the console, from a
named level on.  An unknown level leaves the routing as it was, and so does a file that cannot be
opened. -/
def configure (folder : Place) (path : Text) (limit archived : Int) (level : Value) :
    Action LogBook Unit :=
  fun book =>
    match book.disk.makeFolders folder with
    | (.error refusal, disk) => (.error (.refusedFile refusal), { book with disk })
    | (.ok (), disk) =>
        match Threshold.ofValue level with
        | .error fault => (.error fault, { book with disk })
        | .ok threshold =>
            let file := LogFile.named folder path limit archived
            match file.opened disk with
            | (.error refusal, disk) => (.error (.refusedFile refusal), { book with disk })
            | (.ok (), disk) =>
                (.ok (), { book with disk }.reroute (book.routing.toFile file threshold))

def configureUsually (folder : Place) : Action LogBook Unit :=
  configure folder usualName usualLimit usualArchived (.text usualLevel)

def logFolder (home : Place) : Place :=
  home ++ [Text.of "logs"]

def configureBy (home : Place) (part : Section) : Action LogBook Unit := do
  let enabled ← Action.settle (part.get (Text.of "enabled"))
  if enabled.isTruthy then
    Action.change fun book => book.reroute book.routing.unsilenced
    let level ← Action.settle (part.get (Text.of "level"))
    let size ← Action.settle (part.get (Text.of "max_file_size_mb"))
    let sizeLimit ← Action.settle size.toInteger
    let archived ← Action.settle (part.get (Text.of "max_archived_files"))
    let count ← Action.settle archived.toInteger
    configure (logFolder home) usualName (sizeLimit * limitUnit) count level
  else
    Action.change fun book => book.reroute book.routing.silenced

end LogBook

end ContainerDesk
