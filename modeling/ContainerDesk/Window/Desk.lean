import ContainerDesk.Engine.Access
import ContainerDesk.Engine.LoginCommand
import ContainerDesk.Settings.Watch
import ContainerDesk.View.Dialog
import ContainerDesk.Window.Basic

/-!
# The desk

The window together with what it works with: the settings, the engine, the load of
the host and the clipboard.  Every action of the user and every timer is an action on
the desk.

The window watches the settings for its timers: a changed setting of the refresh
section starts, stops or paces them at once.
-/

namespace ContainerDesk

inductive Prompt where
  | question (title text : Text)
  | complaint (title text : Text)
  | dialog (dialog : TextDialog) (clipboard : Text)

structure Replies where
  /-- Does the user confirm a question? -/
  confirms : Bool
  /-- The buttons that the user presses in a dialog. -/
  presses : List Nat

/-- The window and what it works with, the settings apart. -/
structure Desktop where
  window : Window
  host : HostLoad
  clipboard : Text
  engine : Engine
  /-- The calls that reached the engine. -/
  calls : List EngineCall
  /-- What was put in front of the user. -/
  prompts : List Prompt

/-- The desk: the settings and the desktop. -/
abbrev Desk := Scene Desktop

namespace Desk

def refreshSection : Text :=
  Text.of "refresh"

def mapWindow (desk : Desk) (f : Window → Window) : Desk :=
  { desk with
    surroundings := { desk.surroundings with window := f desk.surroundings.window } }

def window : Action Desk Window :=
  fun desk => (.ok desk.surroundings.window, desk)

def changeWindow (f : Window → Window) : Action Desk Unit :=
  Action.change (mapWindow · f)

def note (entries : Journal) : Action Desk Unit :=
  Action.change (·.mapStore (·.noteAll entries))

def withEngine {α : Type} (work : Action EngineSession α) : Action Desk α :=
  Action.on
    (fun desk => ⟨desk.surroundings.engine, desk.surroundings.calls, desk.store.journal⟩)
    (fun desk session =>
      {
        store := { desk.store with journal := session.journal }
        surroundings :=
          { desk.surroundings with engine := session.engine, calls := session.calls }
      })
    work

def setting (sectionName key : Text) : Action Desk Value :=
  fun desk => (desk.store.get sectionName key, desk)

def prompt (shown : Prompt) : Action Desk Unit :=
  Action.change fun desk =>
    { desk with
      surroundings := { desk.surroundings with prompts := desk.surroundings.prompts ++ [shown] } }

/-!
# Timers
-/

def showLoad : Action Desk Unit := fun desk =>
  match desk.surroundings.host.texts with
  | .error fault => (.error fault, desk)
  | .ok texts =>
      (.ok (), desk.mapWindow fun window =>
        { window with footer := window.footer.setLoad window.language texts })

/-- Starts the timer for snapshots as the settings say, or leaves it stopped. -/
def restartRefreshTimer : Action Desk Unit := do
  changeWindow fun window => { window with refreshTimer := none }
  let enabled ← setting refreshSection (Text.of "auto_refresh_enabled")
  if enabled.isTruthy then
    let rate ← setting refreshSection (Text.of "refresh_rate_ms")
    let interval ← Action.settle rate.toInteger
    changeWindow fun window => { window with refreshTimer := some interval }
  else
    pure ()

def restartLoadTimer : Action Desk Unit := do
  changeWindow fun window => { window with loadTimer := none }
  let enabled ← setting refreshSection (Text.of "system_metrics_enabled")
  if enabled.isTruthy then
    let rate ← setting refreshSection (Text.of "system_metrics_refresh_ms")
    let interval ← Action.settle rate.toInteger
    changeWindow fun window => { window with loadTimer := some interval }
    showLoad
  else
    pure ()

def followSetting (key : Text) : Action Desk Unit :=
  if (Text.of "system_metrics").isPrefixOf key then restartLoadTimer else restartRefreshTimer

def passive {σ : Type} : Reactions σ :=
  fun _ _ scene => ⟨scene.surroundings, [], [], false⟩

/-- The reaction of the observer that keeps the timers in step. -/
def followChange (change : Change) (desk : Desk) : Reaction Desktop :=
  if change.concerns refreshSection then
    match followSetting change.key desk with
    | (.ok (), after) => ⟨after.surroundings, [], [], false⟩
    | (.error _, after) => ⟨after.surroundings, [], [], true⟩
  else
    ⟨desk.surroundings, [], [], false⟩

/-- The reactions of all observers of a desk, given those of the outside ones. -/
def reactions (others : Reactions Desktop) : Reactions Desktop :=
  fun observer change desk =>
    match observer with
    | .changeJournal => ⟨desk.surroundings, change.notes, [], false⟩
    | .refreshTimers => followChange change desk
    | .outside .. => others observer change desk

def set (others : Reactions Desktop) (sectionName key : Text) (value : Value) :
    Action Desk Unit :=
  Scene.set (reactions others) sectionName key value

/-!
# Snapshots
-/

def refresh : Action Desk Unit :=
  changeWindow (·.request)

/-- Requests a snapshot unless an earlier request has not ended. -/
def onRefreshTimer : Action Desk Unit :=
  changeWindow fun window => if window.fetches.isEmpty then window.request else window

/-- When a request is told to stop while it runs. -/
inductive Interruption where
  | never
  | before
  | during
deriving DecidableEq

def deliver (generation : Nat) (outcome : Window.Outcome) (clock : Text) : Action Desk Unit :=
  fun desk =>
    match desk.surroundings.window.deliver generation outcome clock with
    | .error fault => (.error fault, desk)
    | .ok (window, notes) => (.ok (), (desk.mapWindow fun _ => window).mapStore (·.noteAll notes))

def runFetch (fetch : Fetch) (interruption : Interruption) (clock : Text) : Action Desk Unit :=
  fun desk =>
    if fetch.isInterrupted || interruption = .before then
      (.ok (), desk)
    else
      match withEngine (Access.fetchGroups desk.store.get) desk with
      | (.ok groups, after) =>
          if interruption = .during then
            (.ok (), after)
          else
            deliver fetch.generation (.groups groups) clock after
      | (.error (.engineUnavailable message), after) =>
          deliver fetch.generation (.failure message) clock after
      | (.error fault, after) => (.error fault, after)

/-- Runs the request at a place in the list to its end, whatever that is, and gives the request.
There may be no such request. -/
def finish (index : Nat) (interruption : Interruption) (clock : Text) :
    Action Desk (Option Fetch) :=
  fun desk =>
    match desk.surroundings.window.fetches[index]? with
    | none => (.ok none, desk)
    | some fetch =>
        let (result, after) := runFetch fetch interruption clock desk
        (result.map fun _ => some fetch, after.mapWindow (·.forget fetch.generation))

/-!
# Commands
-/

def complain (message : Text) : Action Desk Unit := do
  note [⟨.error, .window, Text.of "UI error: " ++ message⟩]
  let window ← window
  prompt (.complaint (window.language.say .errorTitle) message)

def perform (word : String) (container : Container) (work : Action EngineSession Bool) :
    Action Desk Unit := do
  note [⟨.info, .window, Text.of "Container action " ++ Text.of word ++
    Text.of " requested: container_id=" ++ container.id ++ Text.of ", name=" ++
    container.label⟩]
  match ← Action.attempt (withEngine work) with
  | .ok true => refresh
  | .ok false =>
      let window ← window
      complain (window.language.say .actionFailed)
  | .error (.engineUnavailable message) => complain message
  | .error fault => Action.fail fault

def showDialog (dialog : TextDialog) (presses : List Nat) : Action Desk Unit :=
  Action.change fun desk =>
    let (dialog, clipboard) := dialog.run desk.surroundings.clipboard presses
    { desk with
      surroundings :=
        { desk.surroundings with
          clipboard
          prompts := desk.surroundings.prompts ++ [.dialog dialog clipboard] } }

def phraseFor (language : Language) (phrase : Phrase) (container : Container) : Text :=
  Template.insert (language.say phrase) (Text.of "name") container.label

def command (command : RowCommand) (container : Container) (replies : Replies) :
    Action Desk Unit := do
  let desk ← Action.current
  let settings := desk.store.get
  let language := desk.surroundings.window.language
  match command with
  | .start => perform "start" container (Access.start settings container.id)
  | .stop => perform "stop" container (Access.stop settings container.id)
  | .restart => perform "restart" container (Access.restart settings container.id)
  | .logs =>
      let logs ← withEngine
        (Access.fetchLogs settings container.id EngineSession.usualTail)
      let body := if logs.isEmpty then language.say .logsEmpty else logs
      showDialog (.opened language (phraseFor language .logsTitle container) body (some logs))
        replies.presses
  | .login =>
      showDialog
        (.opened language (phraseFor language .loginTitle container)
          (container.loginCommand Container.usualShell) none)
        replies.presses
  | .delete =>
      prompt (.question (language.say .delete) (phraseFor language .confirmDelete container))
      if replies.confirms then
        perform "delete" container (Access.remove settings container.id true)
      else
        pure ()

/-- Presses a button in the row of a container.  There may be no such row or button. -/
def press (id : Text) (button : Nat) (replies : Replies) : Action Desk Bool := do
  let window ← window
  match window.tree.press? id button, RowCommand.all[button]? with
  | some (_, container), some asked =>
      command asked container replies
      pure true
  | _, _ => pure false

/-!
# The view
-/

def search (query : Text) : Action Desk Unit :=
  changeWindow fun window => { window with tree := window.tree.search window.language query }

/-- Sets the box for the filter of running groups: the view changes first, then the setting. -/
def setOnlyRunning (others : Reactions Desktop) (onlyRunning : Bool) : Action Desk Unit := do
  let window ← window
  if window.tree.onlyRunning = onlyRunning then
    pure ()
  else
    changeWindow fun window =>
      { window with tree := window.tree.setOnlyRunning window.language onlyRunning }
    set others (Text.of "ui_state") (Text.of "only_running") (.bool onlyRunning)

def changeTree (f : Tree → Option Tree) : Action Desk Bool := do
  let window ← window
  match f window.tree with
  | none => pure false
  | some tree =>
      changeWindow fun window => { window with tree }
      pure true

/-!
# Opening and closing
-/

def leastWidth : Int := 640

def leastHeight : Int := 480

/-- A desk with a new window that has not asked for anything yet. -/
def unopened (language : Language) (usualWidth : Int) (host : HostLoad) (store : Store) :
    Except Fault Desk := do
  let window ← Window.ofSettings language usualWidth store
  .ok {
    store := store.register .refreshTimers
    surroundings := { window, host, clipboard := [], engine := .idle, calls := [], prompts := [] }
  }

def start : Action Desk Unit := do
  refresh
  restartRefreshTimer
  restartLoadTimer

def opened (language : Language) (usualWidth : Int) (host : HostLoad) (store : Store) :
    Except Fault Desk := do
  let desk ← unopened language usualWidth host store
  match start desk with
  | (.ok (), desk) => .ok desk
  | (.error fault, _) => .error fault

def rememberRect (others : Reactions Desktop) (rect : Rect) : Action Desk Unit := do
  let app := Text.of "app"
  set others app (Text.of "window_width") (.int (max rect.width leastWidth))
  set others app (Text.of "window_height") (.int (max rect.height leastHeight))
  set others app (Text.of "window_x") (.int rect.x)
  set others app (Text.of "window_y") (.int rect.y)

/-- Remembers whether the window is maximized, and its place and size if it is not. -/
def rememberPlace (others : Reactions Desktop) : Action Desk Unit := do
  let before ← window
  set others (Text.of "app") (Text.of "window_maximized") (.bool before.isMaximized)
  if before.isMaximized then
    pure ()
  else
    let between ← window
    rememberRect others between.rect

/-- Closes the window: the timers stop for good, requests are told to stop, and what the window
looks like is remembered and written to the settings file. -/
def close (others : Reactions Desktop) : Action Desk Unit := do
  Action.change (·.mapStore (·.unregister .refreshTimers))
  changeWindow (·.stopTimers)
  changeWindow (·.interruptFetches)
  rememberPlace others
  let after ← window
  set others (Text.of "ui_state") (Text.of "column_widths") (.list (after.widths.map .int))
  Action.on (·.store) (fun desk store => { desk with store }) Store.save
  changeWindow fun window => { window with isClosed := true }

end Desk

end ContainerDesk
