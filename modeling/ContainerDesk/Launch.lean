import ContainerDesk.Language.Choice
import ContainerDesk.Logging.Routing
import ContainerDesk.Window.Event

/-!
# Starting the desk

The desk makes its folder, sends messages to a log file with the usual values, reads
its settings, routes messages as these say, and opens its window in the language that
they name.

Without its folder the desk does not start at all.
-/

namespace ContainerDesk

def deskVersion : Text :=
  Text.of "0.3.0"

def deskName : Text :=
  Text.of "baydesk"

structure Launch where
  book : LogBook
  language : Language
  /-- The name of the running program, once there is one. -/
  program : Option Text
  /-- The desk, once it has a window, even one that could not be started to the end. -/
  desk : Option Desk

namespace Launch

def fresh (disk : Disk) : Launch :=
  { book := .fresh disk .unset, language := .english, program := none, desk := none }

def makeFolders (home : Place) (disk : Disk) : Bool × Disk × Journal :=
  match disk.makeFolders (LogBook.logFolder home) with
  | (.ok (), disk) => (true, disk, [])
  | (.error refusal, disk) =>
      (false, disk, [{
        level := .error
        speaker := .start
        message := Text.of "Cannot initialize workdir " ++ disk.pathOf home ++ Text.of ": " ++
          refusal.message
      }])

def send (stamp : Text) (entries : Journal) : Action Launch Unit :=
  Action.change fun launch => { launch with book := launch.book.emitAll stamp entries }

def withBook {α : Type} (work : Action LogBook α) : Action Launch α :=
  Action.on (·.book) (fun launch book => { launch with book }) work

def settingsPlace (home : Place) : Place :=
  home ++ [Text.of "config.json"]

def openSettings (stamp : Text) (home : Place) : Action Launch Store :=
  fun launch =>
    let (result, store) := Store.openFile (Store.fresh (settingsPlace home) launch.book.disk)
    let book := ({ launch.book with disk := store.disk } : LogBook).emitAll stamp store.journal
    (result.map fun _ => { store with journal := [] }, { launch with book })

def openDesk (stamp : Text) (usualWidth : Int) (host : HostLoad) (store : Store) :
    Action Launch Unit := do
  Action.change fun launch => { launch with program := some deskName }
  let code ← Action.settle (store.get (Text.of "app") (Text.of "language"))
  let (language, notes) := Language.choose code
  send stamp notes
  Action.change fun launch => { launch with language }
  let desk ← Action.settle (Desk.unopened language usualWidth host store)
  let (result, desk) := Desk.start desk
  Action.change fun launch => { launch with desk := some desk }
  Action.settle result
  let shown := desk.mapWindow fun window => { window with isShown := true }
  Action.change fun launch => { launch with desk := some shown }

def run (stamp : Text) (usualWidth : Int) (host : HostLoad) (home : Place) :
    Action Launch Bool := do
  let launch ← Action.current
  let (isReady, disk, notes) := makeFolders home launch.book.disk
  Action.change fun launch => { launch with book := { launch.book with disk } }
  send stamp notes
  if isReady then
    withBook (LogBook.configureUsually (LogBook.logFolder home))
    let store ← openSettings stamp home
    let part ← Action.settle (store.find (Text.of "logging"))
    withBook (LogBook.configureBy home part)
    send stamp [⟨.info, .start, Text.of "Starting baydesk " ++ deskVersion⟩]
    openDesk stamp usualWidth host store
    pure true
  else
    pure false

end Launch

end ContainerDesk
