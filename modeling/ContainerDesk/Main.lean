import ContainerDesk.Launch
import ContainerDesk.Storage.PathText
import Std.Time

/-!
# The command line

Starts the desk in the home folder of the user and prints its window.  The settings
and the logs below that folder are read before the start and written after it.

Nothing here listens to the engine or measures the host: the window is the one before
the first snapshot, and the load of the host is zero.
-/

namespace ContainerDesk

namespace Terminal

def line (text : Text) : String :=
  String.ofList text.toChars

def path (disk : Disk) (place : Place) : String :=
  line (disk.pathOf place)

def deskPlace : Place :=
  [Text.of ".baydesk"]

def logFile : LogFile :=
  .named (LogBook.logFolder deskPlace) LogBook.usualName LogBook.usualLimit LogBook.usualArchived

def mostArchived : Nat := 50

/-- The places that a start can read or write, folders before what is in them. -/
def places : List Place :=
  [deskPlace, LogBook.logFolder deskPlace, Launch.settingsPlace deskPlace, logFile.place] ++
    (List.range mostArchived).map fun number => logFile.archivePlace (number + 1)

def nodeAt (path : String) : IO (Option Node) := do
  try
    let bytes ← IO.FS.readBinFile path
    pure (some (.file (bytes.toList.map fun byte => ⟨byte.toNat, byte.toNat_lt⟩)))
  catch
    | .inappropriateType .. => pure (some .folder)
    | _ => pure none

def load (home : Text) : IO Disk :=
  places.foldlM (fun disk place => do
    match ← nodeAt (path disk place) with
    | some node => pure (disk.put place node)
    | none => pure disk) (Disk.empty home)

def store (before after : Disk) : IO Unit := do
  for (place, _) in before.nodes do
    if (after.node? place).isNone then
      IO.FS.removeFile (path before place)
  for (place, node) in after.nodes do
    if before.node? place ≠ some node then
      match node with
      | .folder => IO.FS.createDirAll (path after place)
      | .file content =>
          let bytes := content.map fun octet => UInt8.ofNat octet.val
          IO.FS.writeBinFile (path after place) ⟨bytes.toArray⟩

def lines (window : Window) : List Text :=
  [window.title, Text.joinWith (Text.of " | ") window.tree.headers, window.status,
    window.footer.engine, window.footer.load, window.footer.counts]

/-- The load of a host that nobody measures. -/
def restingHost : HostLoad :=
  ⟨.int 0, .int 0, .int 0, .int 0⟩

/-- The width that the toolkit gives to a column. -/
def usualWidth : Int := 100

def stamp : IO Text := do
  let now ← Std.Time.PlainDateTime.now
  pure (Text.of (now.format "uuuu-MM-dd HH:mm:ss,SSS"))

def fail (fault : Fault) : IO UInt32 := do
  IO.eprintln (line fault.message)
  pure 1

def startIn (home : Text) : IO UInt32 := do
  let before ← load home
  let (result, after) :=
    Launch.run (← stamp) usualWidth restingHost deskPlace (Launch.fresh before)
  store before after.book.disk
  match result with
  | .error fault => fail fault
  | .ok false => pure 1
  | .ok true =>
      for desk in after.desk do
        for text in lines desk.surroundings.window do
          IO.println (line text)
      pure 0

def start : IO UInt32 := do
  let chosen ← IO.getEnv "BAYDESK_HOME"
  let user ← IO.getEnv "HOME"
  match homePath (chosen.map Text.of) (Text.of (user.getD "/")) with
  | .error fault => fail fault
  | .ok home => startIn home

end Terminal

end ContainerDesk

def main : IO UInt32 :=
  ContainerDesk.Terminal.start
