import ContainerDesk.Grouping.Group
import ContainerDesk.Language.Phrase
import ContainerDesk.Text.Casing
import ContainerDesk.View.Column

/-!
# The tree of groups

The tree shows the groups of the last snapshot, filtered but never regrouped: a group
of one as a plain row, a larger one as a header with a row for each member, in the
order of the snapshot.  Where nothing is to be shown, one row says so.

Which headers are expanded is remembered by group key.  It is forgotten only when the
user collapses the header, or when a snapshot comes without a larger group of that
key; filters and placeholders leave it alone.
-/

namespace ContainerDesk

structure RowButton where
  label : Text
  tooltip : Text
deriving DecidableEq

structure RecordRow where
  container : Container
  cells : List Text
deriving DecidableEq

structure HeaderRow where
  key : Text
  cells : List Text
  hasRunning : Bool
  isExpanded : Bool
  rows : List RecordRow
deriving DecidableEq

inductive Row where
  | record (row : RecordRow)
  | header (row : HeaderRow)
  | placeholder (cells : List Text)
deriving DecidableEq

def runningColor : Text :=
  Text.of "#00c853"

/-- The colour of a group in which nothing runs. -/
def stoppedColor : Text :=
  Text.of "#9e9e9e"

/-- The colour of a container's row; none of its own for a container that does not run. -/
def RecordRow.color (row : RecordRow) : Option Text :=
  if row.container.isRunning then some runningColor else none

def HeaderRow.color (row : HeaderRow) : Text :=
  if row.hasRunning then runningColor else stoppedColor

def Group.summary (group : Group) (language : Language) : Text :=
  language.say .runningCount ++ Text.of ": " ++ numeral group.running ++ Text.of " · " ++
    language.say .stoppedCount ++ Text.of ": " ++ numeral group.stopped

structure Tree where
  columns : List Column
  buttons : List RowButton
  /-- What stands in the empty search field. -/
  searchHint : Text
  /-- What stands beside the box for the filter of running groups. -/
  filterLabel : Text
  groups : List Group
  /-- The keys of the groups that are expanded. -/
  expanded : List Text
  /-- What the placeholder says. -/
  emptyText : Text
  query : Text
  onlyRunning : Bool
  rows : List Row
  /-- The container of the selected row. -/
  current : Option Container

namespace Tree

def fresh (language : Language) (columns : List Column) (buttons : List RowButton)
    (onlyRunning : Bool) : Tree :=
  {
    columns
    buttons
    searchHint := language.say .searchHint
    filterLabel := language.say .onlyRunning
    groups := []
    expanded := []
    emptyText := language.say .noContainers
    query := []
    onlyRunning
    rows := []
    current := none
  }

/-- How many columns there are, the one for the buttons included. -/
def columnCount (tree : Tree) : Nat :=
  tree.columns.length + (if tree.buttons.isEmpty then 0 else 1)

def headers (tree : Tree) : List Text :=
  tree.columns.map (·.header) ++ (if tree.buttons.isEmpty then [] else [[]])

/-!
# What is shown
-/

/-- Does a group match a query that is in small letters? -/
def isMatch (tree : Tree) (query : Text) (group : Group) : Bool :=
  query.occursIn group.key.lower ||
    group.members.any fun container =>
      tree.columns.any fun column => query.occursIn (column.cell container).lower

def visibleGroups (tree : Tree) : List Group :=
  let groups := if tree.onlyRunning then tree.groups.filter (·.hasRunning) else tree.groups
  let query := tree.query.trim.lower
  if query.isEmpty then groups else groups.filter (tree.isMatch query)

def recordRow (tree : Tree) (container : Container) : RecordRow :=
  {
    container
    cells := tree.columns.map (·.cell container) ++ (if tree.buttons.isEmpty then [] else [[]])
  }

def groupRow (tree : Tree) (language : Language) (group : Group) : Row :=
  match group.isCollapsible, group.members with
  | false, container :: _ => .record (tree.recordRow container)
  | _, members =>
      .header {
        key := group.key
        cells := [group.key, group.summary language] ++ List.replicate (tree.columnCount - 2) []
        hasRunning := group.hasRunning
        isExpanded := group.key ∈ tree.expanded
        rows := members.map tree.recordRow
      }

def placeholderRow (tree : Tree) : Row :=
  .placeholder ([tree.emptyText] ++ List.replicate (tree.columnCount - 1) [])

def drawnRows (tree : Tree) (language : Language) : List Row :=
  match tree.visibleGroups with
  | [] => [tree.placeholderRow]
  | groups => groups.map (tree.groupRow language)

/-- The tree drawn anew; no row is selected afterwards. -/
def redraw (tree : Tree) (language : Language) : Tree :=
  { tree with rows := tree.drawnRows language, current := none }

/-!
# What changes the tree
-/

def setGroups (tree : Tree) (language : Language) (groups : List Group) : Tree :=
  let collapsible := (groups.filter (·.isCollapsible)).map (·.key)
  { tree with
    emptyText := language.say .noContainers
    groups
    expanded := tree.expanded.filter (· ∈ collapsible) }.redraw language

def showPlaceholder (tree : Tree) (language : Language) (message : Text) : Tree :=
  { tree with
    groups := []
    emptyText := if message.isEmpty then language.say .noContainers else message }.redraw language

def search (tree : Tree) (language : Language) (query : Text) : Tree :=
  if query = tree.query then tree else { tree with query }.redraw language

def setOnlyRunning (tree : Tree) (language : Language) (onlyRunning : Bool) : Tree :=
  if onlyRunning = tree.onlyRunning then tree else { tree with onlyRunning }.redraw language

def header? (tree : Tree) (key : Text) : Option HeaderRow :=
  tree.rows.findSome? fun row =>
    match row with
    | .header row => if row.key = key then some row else none
    | _ => none

def rememberExpanded (expanded : List Text) (key : Text) (isExpanded : Bool) : List Text :=
  if isExpanded then
    if key ∈ expanded then expanded else expanded ++ [key]
  else
    expanded.filter (· ≠ key)

def expandRows (key : Text) (isExpanded : Bool) : List Row → List Row
  | [] => []
  | .header row :: rest =>
      if row.key = key then
        .header { row with isExpanded } :: rest
      else
        .header row :: expandRows key isExpanded rest
  | other :: rest => other :: expandRows key isExpanded rest

def setExpanded (tree : Tree) (key : Text) (isExpanded : Bool) : Tree :=
  { tree with
    expanded := rememberExpanded tree.expanded key isExpanded
    rows := expandRows key isExpanded tree.rows }

def expand? (tree : Tree) (key : Text) (isExpanded : Bool) : Option Tree :=
  match tree.header? key with
  | none => none
  | some row =>
      if row.isExpanded = isExpanded then some tree else some (tree.setExpanded key isExpanded)

def at? (tree : Tree) (path : List Nat) : Option (Option Container) :=
  match path with
  | [index] =>
      tree.rows[index]?.map fun row =>
        match row with
        | .record row => some row.container
        | _ => none
  | [index, member] =>
      match tree.rows[index]? with
      | some (.header row) => row.rows[member]?.map fun row => some row.container
      | _ => none
  | _ => none

/-- The tree with the row at a path selected, if there is such a row.  The empty path selects
nothing. -/
def select? (tree : Tree) (path : List Nat) : Option Tree :=
  if path.isEmpty then
    some { tree with current := none }
  else
    (tree.at? path).map fun current => { tree with current }

def shown (tree : Tree) : List Container :=
  tree.rows.flatMap fun row =>
    match row with
    | .record row => [row.container]
    | .header row => row.rows.map (·.container)
    | .placeholder _ => []

def press? (tree : Tree) (id : Text) (button : Nat) : Option (RowButton × Container) :=
  match tree.shown.find? fun container => container.id = id, tree.buttons[button]? with
  | some container, some button => some (button, container)
  | _, _ => none

end Tree

end ContainerDesk
