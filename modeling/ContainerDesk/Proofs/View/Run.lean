import ContainerDesk.Proofs.View.Drawing
import ContainerDesk.View.TreeEvent
import Mathlib.Data.List.Induction

/-!
# Runs of a tree

Events of any kind come in any order.  What a tree holds after them is what the last event
of each kind told, and from the first event on that draws it, the tree shows just that:
it is always as if it were drawn anew.
-/

namespace ContainerDesk

namespace Tree

open Grouping (IsSnapshot groupContainers isSnapshot_nil flatMap_members_groupContainers)

/-!
# What events tell
-/

namespace Event

/-- The groups that there are from the event on, none from a failure on. -/
def groups? : Event → Option (List Group)
  | .snapshot groups => some groups
  | .placeholder _ => some []
  | _ => none

def emptyText? (language : Language) : Event → Option Text
  | .snapshot _ => some (language.say .noContainers)
  | .placeholder message =>
      some (if message.isEmpty then language.say .noContainers else message)
  | _ => none

def query? : Event → Option Text
  | .search query => some query
  | _ => none

def onlyRunning? : Event → Option Bool
  | .onlyRunning isOn => some isOn
  | _ => none

/-- Are the groups that the event brings, if any, those of a snapshot? -/
def IsOfSnapshot : Event → Prop
  | .snapshot groups => IsSnapshot groups
  | _ => True

end Event

def lastTold {α : Type} (tell : Event → Option α) (before : α) (events : List Event) : α :=
  (events.filterMap tell).getLast?.getD before

theorem lastTold_concat {α : Type} (tell : Event → Option α) (before : α) (events : List Event)
    (event : Event) :
    lastTold tell before (events ++ [event]) =
      (tell event).getD (lastTold tell before events) := by
  unfold lastTold
  rw [List.filterMap_append]
  cases htell : tell event with
  | none => simp [htell]
  | some told => simp [htell]

def lastGroups (events : List Event) : List Group :=
  lastTold Event.groups? [] events

def lastEmptyText (language : Language) (events : List Event) : Text :=
  lastTold (Event.emptyText? language) (language.say .noContainers) events

def lastQuery (events : List Event) : Text :=
  lastTold Event.query? [] events

def lastOnlyRunning (initial : Bool) (events : List Event) : Bool :=
  lastTold Event.onlyRunning? initial events

/-- The groups that are wanted after several events, in the order of their snapshot. -/
def wantedGroups (columns : List Column) (initial : Bool) (events : List Event) : List Group :=
  (lastGroups events).filter fun group =>
    decide (group.IsWanted columns (lastQuery events) (lastOnlyRunning initial events))

theorem isSnapshot_lastGroups {events : List Event} (h : ∀ event ∈ events, event.IsOfSnapshot) :
    IsSnapshot (lastGroups events) := by
  induction events using List.reverseRecOn with
  | nil => exact isSnapshot_nil
  | append_singleton front event ih =>
      rw [List.forall_mem_append, List.forall_mem_singleton] at h
      have hfront := ih h.1
      rw [lastGroups, lastTold_concat]
      cases event with
      | snapshot groups => exact h.2
      | placeholder message => exact isSnapshot_nil
      | search query => exact hfront
      | onlyRunning isOn => exact hfront
      | expand key isExpanded => exact hfront
      | select path => exact hfront

/-!
# What a tree holds
-/

def next (language : Language) (tree : Tree) (event : Event) : Tree :=
  (tree.step? language event).getD tree

variable {tree : Tree} {language : Language}

theorem after_concat (tree : Tree) (language : Language) (events : List Event) (event : Event) :
    tree.after language (events ++ [event]) =
      (tree.after language events).next language event := by
  unfold after
  rw [List.foldl_append]
  rfl

theorem search_self (tree : Tree) (language : Language) :
    tree.search language tree.query = tree :=
  if_pos rfl

theorem search_of_ne {query : Text} (h : query ≠ tree.query) :
    tree.search language query = { tree with query }.redraw language :=
  if_neg h

theorem setOnlyRunning_self (tree : Tree) (language : Language) :
    tree.setOnlyRunning language tree.onlyRunning = tree :=
  if_pos rfl

theorem setOnlyRunning_of_ne {isOn : Bool} (h : isOn ≠ tree.onlyRunning) :
    tree.setOnlyRunning language isOn = { tree with onlyRunning := isOn }.redraw language :=
  if_neg h

/-- What an event tells takes the place of what was there.  Besides that it changes at most what is
remembered, drawn and selected. -/
theorem exists_eq_next (tree : Tree) (language : Language) (event : Event) :
    ∃ expanded rows current, tree.next language event =
      { tree with
        groups := event.groups?.getD tree.groups
        emptyText := (event.emptyText? language).getD tree.emptyText
        query := event.query?.getD tree.query
        onlyRunning := event.onlyRunning?.getD tree.onlyRunning
        expanded
        rows
        current } := by
  cases event with
  | snapshot groups => exact ⟨_, _, _, rfl⟩
  | placeholder message => exact ⟨_, _, _, rfl⟩
  | search query =>
      by_cases h : query = tree.query
      · rw [h]
        exact ⟨_, _, _, search_self tree language⟩
      · exact ⟨_, _, _, search_of_ne h⟩
  | onlyRunning isOn =>
      by_cases h : isOn = tree.onlyRunning
      · rw [h]
        exact ⟨_, _, _, setOnlyRunning_self tree language⟩
      · exact ⟨_, _, _, setOnlyRunning_of_ne h⟩
  | expand key isExpanded =>
      unfold next step? expand?
      dsimp only
      split
      · exact ⟨_, _, _, rfl⟩
      · split
        · exact ⟨_, _, _, rfl⟩
        · exact ⟨_, _, _, rfl⟩
  | select path =>
      unfold next step? select?
      dsimp only
      split
      · exact ⟨_, _, _, rfl⟩
      · cases tree.at? path with
        | none => exact ⟨_, _, _, rfl⟩
        | some current => exact ⟨_, _, _, rfl⟩

/-- Does a tree hold what events told a fresh tree?  What is expanded is told by more than the last
event. -/
structure Holds (tree : Tree) (language : Language) (columns : List Column)
    (buttons : List RowButton) (initial : Bool) (events : List Event) : Prop where
  columns : tree.columns = columns
  buttons : tree.buttons = buttons
  groups : tree.groups = lastGroups events
  emptyText : tree.emptyText = lastEmptyText language events
  query : tree.query = lastQuery events
  onlyRunning : tree.onlyRunning = lastOnlyRunning initial events

section Holding

variable {columns : List Column} {buttons : List RowButton} {initial : Bool}

theorem Holds.next {events : List Event} (h : tree.Holds language columns buttons initial events)
    (event : Event) :
    (tree.next language event).Holds language columns buttons initial (events ++ [event]) := by
  rcases exists_eq_next tree language event with ⟨expanded, rows, current, heq⟩
  rw [heq]
  constructor
  · exact h.columns
  · exact h.buttons
  · rw [lastGroups, lastTold_concat, h.groups, lastGroups]
  · rw [lastEmptyText, lastTold_concat, h.emptyText, lastEmptyText]
  · rw [lastQuery, lastTold_concat, h.query, lastQuery]
  · rw [lastOnlyRunning, lastTold_concat, h.onlyRunning, lastOnlyRunning]

theorem holds_after (language : Language) (columns : List Column) (buttons : List RowButton)
    (initial : Bool) (events : List Event) :
    ((fresh language columns buttons initial).after language events).Holds language columns buttons
      initial events := by
  induction events using List.reverseRecOn with
  | nil => exact ⟨rfl, rfl, rfl, rfl, rfl, rfl⟩
  | append_singleton front event ih =>
      rw [after_concat]
      exact ih.next event

theorem isSnapshot_groups_after {events : List Event}
    (hsnapshots : ∀ event ∈ events, event.IsOfSnapshot) :
    IsSnapshot ((fresh language columns buttons initial).after language events).groups :=
  (holds_after language columns buttons initial events).groups ▸ isSnapshot_lastGroups hsnapshots

theorem Holds.visibleGroups_eq {events : List Event}
    (h : tree.Holds language columns buttons initial events)
    (hsnapshots : ∀ event ∈ events, event.IsOfSnapshot) :
    tree.visibleGroups = wantedGroups columns initial events := by
  have hsnapshot : IsSnapshot tree.groups := h.groups ▸ isSnapshot_lastGroups hsnapshots
  rw [Tree.visibleGroups_eq hsnapshot, h.groups, h.columns, h.query, h.onlyRunning]
  rfl

end Holding

/-!
# What a tree shows
-/

/-- Does an event draw the tree anew?  Setting a filter to what it is does not. -/
def IsRedrawnBy (tree : Tree) : Event → Prop
  | .snapshot _ | .placeholder _ => True
  | .search query => query ≠ tree.query
  | .onlyRunning isOn => isOn ≠ tree.onlyRunning
  | .expand _ _ | .select _ => False

theorem isDrawn_of_isRedrawnBy {event : Event} (h : tree.IsRedrawnBy event) :
    (tree.next language event).IsDrawn language := by
  cases event with
  | snapshot groups => exact isDrawn_redraw _ language
  | placeholder message => exact isDrawn_redraw _ language
  | search query =>
      show (tree.search language query).IsDrawn language
      rw [search_of_ne h]
      exact isDrawn_redraw _ language
  | onlyRunning isOn =>
      show (tree.setOnlyRunning language isOn).IsDrawn language
      rw [setOnlyRunning_of_ne h]
      exact isDrawn_redraw _ language
  | expand key isExpanded => exact absurd h id
  | select path => exact absurd h id

theorem next_of_not_isRedrawnBy {event : Event} (h : ¬ tree.IsRedrawnBy event) :
    tree.next language event = tree ∨
      (∃ key isExpanded, tree.next language event = tree.setExpanded key isExpanded) ∨
      ∃ current, tree.next language event = { tree with current } := by
  cases event with
  | snapshot groups => exact absurd trivial h
  | placeholder message => exact absurd trivial h
  | search query =>
      left
      show tree.search language query = tree
      rw [not_not.mp h, search_self]
  | onlyRunning isOn =>
      left
      show tree.setOnlyRunning language isOn = tree
      rw [not_not.mp h, setOnlyRunning_self]
  | expand key isExpanded =>
      have hnext : tree.next language (.expand key isExpanded) =
          (tree.expand? key isExpanded).getD tree := rfl
      rw [hnext]
      cases hexpand : tree.expand? key isExpanded with
      | none => exact .inl rfl
      | some after =>
          rcases expand?_cases hexpand with ⟨_, _, _, ⟨_, hsame⟩ | hset⟩
          · exact .inl hsame
          · exact .inr (.inl ⟨key, isExpanded, hset⟩)
  | select path =>
      unfold next step? select?
      dsimp only
      split
      · exact .inr (.inr ⟨none, rfl⟩)
      · cases tree.at? path with
        | none => exact .inl rfl
        | some current => exact .inr (.inr ⟨current, rfl⟩)

/-- Once drawn, the tree stays as if it were drawn anew. -/
theorem IsDrawn.next (h : tree.IsDrawn language) (hsnapshot : IsSnapshot tree.groups)
    (event : Event) : (tree.next language event).IsDrawn language := by
  by_cases hredrawn : tree.IsRedrawnBy event
  · exact isDrawn_of_isRedrawnBy hredrawn
  · rcases next_of_not_isRedrawnBy hredrawn with hsame | ⟨key, isExpanded, hset⟩ | ⟨current, hset⟩
    · rw [hsame]
      exact h
    · rw [hset]
      exact h.setExpanded hsnapshot key isExpanded
    · rw [hset]
      exact h

section Runs

variable {columns : List Column} {buttons : List RowButton} {initial : Bool}

/-- The first event that draws the tree starts the induction over those behind it. -/
theorem isDrawn_after {before rest : List Event} {event : Event}
    (hsnapshots : ∀ told ∈ before ++ event :: rest, told.IsOfSnapshot)
    (hredrawn : ((fresh language columns buttons initial).after language before).IsRedrawnBy
      event) :
    ((fresh language columns buttons initial).after language
      (before ++ event :: rest)).IsDrawn language := by
  induction rest using List.reverseRecOn with
  | nil =>
      rw [after_concat]
      exact isDrawn_of_isRedrawnBy hredrawn
  | append_singleton front last ih =>
      have hsplit : before ++ event :: (front ++ [last]) = before ++ event :: front ++ [last] := by
        rw [List.append_assoc, List.cons_append]
      rw [hsplit] at hsnapshots ⊢
      have hfront := (List.forall_mem_append.mp hsnapshots).1
      rw [after_concat]
      exact (ih hfront).next (isSnapshot_groups_after hfront) last

/-- From the first event on that draws it, the tree is as if it were drawn anew from the last
snapshot and the last filters.  It shows the wanted groups in the order of the snapshot, each as a
whole, and where there are none, a single row.  Without filters every container of the snapshot
has one row. -/
theorem shows_wantedGroups (language : Language) (columns : List Column) (buttons : List RowButton)
    (initial : Bool) {before rest events : List Event} {event : Event}
    (hevents : events = before ++ event :: rest)
    (hsnapshots : ∀ told ∈ events, told.IsOfSnapshot)
    (hredrawn : ((fresh language columns buttons initial).after language before).IsRedrawnBy event)
    {tree : Tree} (htree : tree = (fresh language columns buttons initial).after language events) :
    tree.rows = (tree.redraw language).rows ∧
    (tree.columns = columns ∧ tree.buttons = buttons) ∧
    (wantedGroups columns initial events = [] →
      ∃ blanks, tree.rows = [.placeholder (lastEmptyText language events :: blanks)]) ∧
    (wantedGroups columns initial events ≠ [] →
      List.Forall₂ (tree.Shows language) (wantedGroups columns initial events) tree.rows) ∧
    ((lastQuery events).trim = [] → lastOnlyRunning initial events = false →
      tree.shown = (lastGroups events).flatMap Group.members ∧
      ∀ containers, lastGroups events = groupContainers containers →
        tree.shown.Perm containers) := by
  subst hevents htree
  have hdrawn := isDrawn_after hsnapshots hredrawn
  have hholds := holds_after language columns buttons initial (before ++ event :: rest)
  generalize (fresh language columns buttons initial).after language (before ++ event :: rest) =
    tree at hdrawn hholds ⊢
  have hsnapshot : IsSnapshot tree.groups := hholds.groups ▸ isSnapshot_lastGroups hsnapshots
  have hvisible := hholds.visibleGroups_eq hsnapshots
  refine ⟨hdrawn, ⟨hholds.columns, hholds.buttons⟩, ?_, ?_, ?_⟩
  · intro hnone
    rw [← hvisible] at hnone
    rw [hdrawn.rows_of_nil hnone, placeholderRow, hholds.emptyText]
    exact ⟨_, rfl⟩
  · intro hsome
    rw [← hvisible] at hsome ⊢
    exact hdrawn.forall₂_shows hsnapshot hsome
  · intro hquery honly
    have hall : wantedGroups columns initial (before ++ event :: rest) =
        lastGroups (before ++ event :: rest) := by
      apply List.filter_eq_self.mpr
      intro group _
      rw [honly, decide_eq_true_eq]
      exact ⟨fun hfalse => (nomatch hfalse), fun hblank => absurd hquery hblank⟩
    rw [hdrawn.shown_eq hsnapshot, hvisible, hall]
    constructor
    · rfl
    · intro containers hcontainers
      rw [hcontainers]
      exact flatMap_members_groupContainers containers

def listed (name state : String) : Container :=
  ⟨Text.of name, Text.of name, Text.of state, [], [], []⟩

/-- Only one member of a group fits the query and only the other one runs, but the group is wanted
as a whole. -/
theorem shows_wantedGroups_searched :
    let columns := [⟨Text.of "Name", Container.label⟩]
    let web : Group :=
      ⟨Text.of "web", [listed "web-1" "running", listed "web-2" "exited"], 1, 1⟩
    let cache : Group := ⟨[], [listed "cache" "running"], 1, 0⟩
    let events : List Event := [.search (Text.of "b"), .expand (Text.of "web") true,
      .snapshot [web, cache], .expand (Text.of "web") true, .search (Text.of " WEB-2 "),
      .onlyRunning true]
    let tree := (fresh .english columns [] false).after .english events
    (∀ told ∈ events, told.IsOfSnapshot) ∧
    ∃ row, tree.rows = [.header row] ∧ row.key = web.key ∧
      row.rows.map (·.container) = web.members ∧
      (row.isExpanded = true ↔ web.key ∈ tree.expanded) := by
  intro columns web cache events tree
  have hsnapshot : IsSnapshot [web, cache] := by decide
  have hsnapshots : ∀ told ∈ events, told.IsOfSnapshot := by
    simp only [events, List.forall_mem_cons]
    exact ⟨trivial, trivial, hsnapshot, trivial, trivial, trivial, fun _ h => nomatch h⟩
  have hwanted : wantedGroups columns false events = [web] := by decide +kernel
  have hsplit : events = [] ++ Event.search (Text.of "b") :: events.tail := rfl
  have hshown := (shows_wantedGroups .english columns [] false hsplit hsnapshots
    (List.cons_ne_nil _ _) (rfl : tree = _)).2.2.2.1
  clear_value tree
  rw [hwanted] at hshown
  rcases List.forall₂_cons_left_iff.mp (hshown (List.cons_ne_nil _ _)) with
    ⟨first, rest, hrow, hrest, hrows⟩
  rw [List.forall₂_nil_left_iff.mp hrest] at hrows
  cases first with
  | record row => exact nomatch (congrArg List.length hrow.1 : 2 = 1)
  | placeholder cells => exact absurd hrow id
  | header row =>
      rcases hrow with ⟨_, hkey, _, hmembers, hexpanded⟩
      refine ⟨hsnapshots, row, hrows, hkey, ?_, hexpanded⟩
      rw [hmembers, List.map_map]
      rfl

end Runs

end Tree

end ContainerDesk
