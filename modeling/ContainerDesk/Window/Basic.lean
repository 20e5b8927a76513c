import ContainerDesk.Language.Template
import ContainerDesk.Settings.Store
import ContainerDesk.Value.Number
import ContainerDesk.View.Footer
import ContainerDesk.View.Gate
import ContainerDesk.View.Tree

/-!
# The window

The window of the desk: the tree of groups, a status line, the footer, two timers and
the requests for snapshots that have not ended yet.

What is here works on the window alone.  What a result of a request does to it is
decided by the gate: a result that is not newer than those before it changes nothing.
-/

namespace ContainerDesk

structure Rect where
  x : Int
  y : Int
  width : Int
  height : Int
deriving DecidableEq

/-- A request for a snapshot that has not ended. -/
structure Fetch where
  generation : Nat
  isInterrupted : Bool
  /-- How long its end was waited for, in milliseconds, each time. -/
  waits : List Nat
deriving DecidableEq

structure Window where
  language : Language
  title : Text
  rect : Rect
  isMaximized : Bool
  isShown : Bool
  isClosed : Bool
  refreshLabel : Text
  status : Text
  footer : Footer
  /-- The interval of the timer for snapshots, in milliseconds, while it runs. -/
  refreshTimer : Option Int
  /-- The interval of the timer for the load of the host, in milliseconds, while it runs. -/
  loadTimer : Option Int
  gate : Gate
  fetches : List Fetch
  tree : Tree
  /-- The widths of the columns. -/
  widths : List Int

inductive RowCommand where
  | start
  | stop
  | restart
  | logs
  | login
  | delete
deriving DecidableEq

namespace RowCommand

def all : List RowCommand :=
  [.start, .stop, .restart, .logs, .login, .delete]

def sign : RowCommand → Text
  | .start => Text.of "▶"
  | .stop => Text.of "■"
  | .restart => Text.of "↻"
  | .logs => Text.of "📄"
  | .login => Text.of "⌨"
  | .delete => Text.of "🗑"

def phrase : RowCommand → Phrase
  | .start => .start
  | .stop => .stop
  | .restart => .restart
  | .logs => .logs
  | .login => .login
  | .delete => .delete

def button (language : Language) (command : RowCommand) : RowButton :=
  ⟨command.sign, language.say command.phrase⟩

end RowCommand

namespace Window

/-!
# A new window
-/

def columns (language : Language) : List Column :=
  [⟨language.say .nameColumn, Container.label⟩, ⟨language.say .idColumn, Container.id⟩,
    ⟨language.say .imageColumn, Container.image⟩, ⟨language.say .statusColumn, Container.status⟩,
    ⟨language.say .portsColumn, Container.ports⟩]

/-- The widths after those of a list were set one by one; only positive numbers are widths. -/
def restoreWidths : (index : Nat) → List Int → List Value → List Int
  | _, widths, [] => widths
  | index, widths, .int width :: rest =>
      restoreWidths (index + 1) (if 0 < width then widths.set index width else widths) rest
  | index, widths, _ :: rest => restoreWidths (index + 1) widths rest

/-- The elements of a list that a setting holds; none where it holds no list. -/
def itemsOf : Value → List Value
  | .list items => items
  | _ => []

/-- A window as the settings want it, before its first request.  A column that nobody has set has
the usual width of the toolkit. -/
def ofSettings (language : Language) (usualWidth : Int) (store : Store) :
    Except Fault Window := do
  let ui := Text.of "ui_state"
  let app := Text.of "app"
  let onlyRunning ← store.get ui (Text.of "only_running")
  let widths ← store.get ui (Text.of "column_widths")
  let width ← store.get app (Text.of "window_width")
  let height ← store.get app (Text.of "window_height")
  let x ← store.get app (Text.of "window_x")
  let y ← store.get app (Text.of "window_y")
  let maximized ← store.get app (Text.of "window_maximized")
  let tree := Tree.fresh language (columns language) (RowCommand.all.map (·.button language))
    onlyRunning.isTruthy
  .ok {
    language
    title := language.say .appTitle
    rect := ⟨← x.toInteger, ← y.toInteger, ← width.toInteger, ← height.toInteger⟩
    isMaximized := maximized.isTruthy
    isShown := false
    isClosed := false
    refreshLabel := language.say .refresh
    status := []
    footer := Footer.fresh language
    refreshTimer := none
    loadTimer := none
    gate := Gate.fresh
    fetches := []
    tree
    widths := restoreWidths 0 (List.replicate tree.columnCount usualWidth) (itemsOf widths)
  }

/-!
# Requests and their results
-/

def request (window : Window) : Window :=
  let (generation, gate) := window.gate.next
  { window with
    gate
    status := if gate.hasApplied then window.status else window.language.say .loading
    fetches := window.fetches ++ [⟨generation, false, []⟩] }

def forget (window : Window) (generation : Nat) : Window :=
  { window with fetches := window.fetches.filter fun fetch => fetch.generation ≠ generation }

def updatedText (language : Language) (clock : Text) : Text :=
  Template.insert (language.say .lastUpdated) (Text.of "timestamp") clock

def failureText (language : Language) (message : Text) : Text :=
  Template.insert (language.say .engineError) (Text.of "message") message

def containerCount (groups : List Group) : Nat :=
  groups.foldr (fun group count => group.size + count) 0

def showGroups (window : Window) (groups : List Group) (clock : Text) : Window :=
  { window with
    tree := window.tree.setGroups window.language groups
    footer := (window.footer.setEngine window.language true).setCounts
      (numeral (containerCount groups)) (numeral groups.length)
    status := updatedText window.language clock }

def showFailure (window : Window) (message : Text) : Window :=
  let text := failureText window.language message
  { window with
    footer := window.footer.setEngine window.language false
    tree := window.tree.showPlaceholder window.language text
    status := text }

def failureEntry (message : Text) : Entry :=
  {
    level := .error
    speaker := .window
    message := Text.of "Container refresh failed: " ++ message
  }

inductive Outcome where
  | groups (groups : List Group)
  | failure (message : Text)

/-- The window after a request ended, if the gate lets the result through, and what the journal
says about it. -/
def deliver (window : Window) (generation : Nat) (outcome : Outcome) (clock : Text) :
    Except Fault (Window × Journal) :=
  match window.gate.accept generation with
  | .error fault => .error fault
  | .ok (false, _, notes) => .ok (window, notes)
  | .ok (true, gate, notes) =>
      let window := { window with gate }
      match outcome with
      | .groups groups => .ok (window.showGroups groups clock, notes)
      | .failure message => .ok (window.showFailure message, notes ++ [failureEntry message])

def stopTimers (window : Window) : Window :=
  { window with refreshTimer := none, loadTimer := none }

/-- How long the end of a request is waited for when the window closes, in milliseconds. -/
def closingWait : Nat := 2000

/-- The window with all requests told to stop and their end waited for. -/
def interruptFetches (window : Window) : Window :=
  { window with
    fetches := window.fetches.map fun fetch =>
      { fetch with isInterrupted := true, waits := fetch.waits ++ [closingWait] } }

end Window

end ContainerDesk
