import ContainerDesk.Window.Desk

/-!
# What happens on the desk

The events of the desk: what the user does, what the timers do, requests that end, and
settings that change while the window is open.
-/

namespace ContainerDesk

namespace Desk

inductive Timer where
  | refresh
  | load
deriving DecidableEq

inductive Event where
  | refresh
  /-- A timer's time is up, and the host has a new load. -/
  | tick (timer : Timer) (host : HostLoad)
  /-- The request at a place in the list ends, with the engine as it is by then. -/
  | finish (index : Nat) (engine : Engine) (interruption : Interruption) (clock : Text)
  /-- The user presses a button in the row of a container. -/
  | press (id : Text) (button : Nat) (replies : Replies) (engine : Engine)
  | search (query : Text)
  | onlyRunning (onlyRunning : Bool)
  | expand (key : Text) (isExpanded : Bool)
  | select (path : List Nat)
  | set (sectionName key : Text) (value : Value)
  | move (rect : Rect)
  | maximize (isMaximized : Bool)
  | resizeColumn (column : Nat) (width : Int)
  | close

inductive Answer where
  | done
  /-- The row, button or request that the event needs is not there. -/
  | missing
  /-- The timer does not run. -/
  | stopped
  | finished (fetch : Fetch)

def setEngine (engine : Engine) : Action Desk Unit :=
  Action.change fun desk => { desk with surroundings := { desk.surroundings with engine } }

def setHost (host : HostLoad) : Action Desk Unit :=
  Action.change fun desk => { desk with surroundings := { desk.surroundings with host } }

def doing (action : Action Desk Unit) : Action Desk Answer := do
  action
  pure .done

def trying (action : Action Desk Bool) : Action Desk Answer := do
  let isThere ← action
  pure (if isThere then .done else .missing)

def onTimer : Timer → Action Desk Answer
  | .refresh => do
      let window ← window
      if window.refreshTimer.isSome then doing onRefreshTimer else pure .stopped
  | .load => do
      let window ← window
      if window.loadTimer.isSome then doing showLoad else pure .stopped

def apply (others : Reactions Desktop) : Event → Action Desk Answer
  | .refresh => doing refresh
  | .tick timer host => do
      setHost host
      onTimer timer
  | .finish index engine interruption clock => do
      setEngine engine
      let fetch ← finish index interruption clock
      pure (match fetch with
        | some fetch => .finished fetch
        | none => .missing)
  | .press id button replies engine => do
      setEngine engine
      trying (press id button replies)
  | .search query => doing (search query)
  | .onlyRunning onlyRunning => doing (setOnlyRunning others onlyRunning)
  | .expand key isExpanded => trying (changeTree (·.expand? key isExpanded))
  | .select path => trying (changeTree (·.select? path))
  | .set sectionName key value => doing (set others sectionName key value)
  | .move rect => doing (changeWindow fun window => { window with rect })
  | .maximize isMaximized => doing (changeWindow fun window => { window with isMaximized })
  | .resizeColumn column width =>
      doing (changeWindow fun window => { window with widths := window.widths.set column width })
  | .close => doing (close others)

/-- The desk after several events, those that ended with a fault included. -/
def after (others : Reactions Desktop) (desk : Desk) (events : List Event) : Desk :=
  events.foldl (fun desk event => (apply others event desk).2) desk

end Desk

end ContainerDesk
