import ContainerDesk.Container
import ContainerDesk.Fault
import ContainerDesk.Value.Basic

/-!
# Groups

Containers under a common key.  A group has at least one member; its members stand
running ones first, then by label, then by identifier, and it knows how many of
them run.

Groups come in a fixed order: those with a running member first, then the larger
ones, then by key.  Both orders compare texts code point by code point, and what
ties keeps the order in which it came.
-/

namespace ContainerDesk

structure Group where
  key : Text
  members : List Container
  running : Nat
  stopped : Nat
deriving DecidableEq

namespace Group

def size (group : Group) : Nat :=
  group.members.length

def hasRunning (group : Group) : Bool :=
  0 < group.running

/-- A group of one is shown as a plain row, a larger one as a header with rows under it. -/
def isCollapsible (group : Group) : Bool :=
  1 < group.size

def memberOrder (first second : Container) : Bool :=
  if first.isRunning ≠ second.isRunning then
    first.isRunning
  else if first.label ≠ second.label then
    first.label.atMost second.label
  else
    first.id.atMost second.id

def groupOrder (first second : Group) : Bool :=
  if first.hasRunning ≠ second.hasRunning then
    first.hasRunning
  else if first.size ≠ second.size then
    second.size < first.size
  else
    first.key.atMost second.key

/-- The group of members in any order, of which there is at least one. -/
def gather (key : Text) (members : List Container) : Group :=
  let ordered := members.mergeSort memberOrder
  let running := ordered.countP Container.isRunning
  { key, members := ordered, running, stopped := ordered.length - running }

def make (key : Text) (members : List Container) : Except Fault Group :=
  if members.isEmpty then
    .error (.badValue (Text.of "Group '" ++ key ++ Text.of "' must have at least one member"))
  else
    .ok (gather key members)

theorem make_of_ne_nil (key : Text) {members : List Container} (h : members ≠ []) :
    make key members = .ok (gather key members) :=
  if_neg (by simp [h])

theorem mapM_make {α : Type} {key : α → Text} {members : α → List Container} {entries : List α}
    (h : ∀ entry ∈ entries, members entry ≠ []) :
    entries.mapM (fun entry => make (key entry) (members entry)) =
      .ok (entries.map fun entry => gather (key entry) (members entry)) := by
  induction entries with
  | nil => rfl
  | cons entry rest ih =>
      rw [List.mapM_cons, make_of_ne_nil _ (h entry List.mem_cons_self),
        ih fun other hother => h other (List.mem_cons_of_mem _ hother)]
      rfl

end Group

namespace Grouping

/-- The table of containers by key with one more container; a new key stands at the end. -/
def addMember (partition : List (Text × List Container)) (key : Text) (container : Container) :
    List (Text × List Container) :=
  putEntry key ((partition.lookup key).getD [] ++ [container]) partition

/-- The containers that have a label, by key, keys and containers in the order in which they
come. -/
def partition (keyed : List (Container × Text)) : List (Text × List Container) :=
  keyed.foldl
    (fun table entry =>
      if entry.1.label.isEmpty then table else addMember table entry.2 entry.1) []

def orphans (keyed : List (Container × Text)) : List Container :=
  (keyed.map (·.1)).filter fun container => container.label.isEmpty

theorem members_ne_nil_addMember {table : List (Text × List Container)} (key : Text)
    (container : Container) (h : ∀ entry ∈ table, entry.2 ≠ []) :
    ∀ entry ∈ addMember table key container, entry.2 ≠ [] := by
  intro entry hentry
  rcases mem_putEntry hentry with rfl | hentry
  · exact List.append_ne_nil_of_right_ne_nil _ (List.cons_ne_nil _ _)
  · exact h entry hentry

theorem members_ne_nil_of_mem_partition (keyed : List (Container × Text)) :
    ∀ entry ∈ partition keyed, entry.2 ≠ [] := by
  have hrun : ∀ (rest : List (Container × Text)) {table : List (Text × List Container)},
      (∀ entry ∈ table, entry.2 ≠ []) →
        ∀ entry ∈ rest.foldl (fun table entry =>
          if entry.1.label.isEmpty then table else addMember table entry.2 entry.1) table,
            entry.2 ≠ [] := by
    intro rest
    induction rest with
    | nil => exact fun htable => htable
    | cons entry rest ih =>
        intro table htable
        rw [List.foldl_cons]
        apply ih
        by_cases hlabel : entry.1.label.isEmpty = true
        · rwa [if_pos hlabel]
        · rw [if_neg hlabel]
          exact members_ne_nil_addMember entry.2 entry.1 htable
  exact hrun keyed (List.forall_mem_nil _)

/-- The groups of containers with given keys, in their order.  Containers without a label are
alone, under an empty key. -/
def groupsOf (keyed : List (Container × Text)) : Except Fault (List Group) := do
  let labelled ← (partition keyed).mapM fun entry => Group.make entry.1 entry.2
  let alone ← (orphans keyed).mapM fun container => Group.make [] [container]
  .ok ((labelled ++ alone).mergeSort Group.groupOrder)

/-- No group is made without members, so this never fails. -/
theorem groupsOf_eq_ok (keyed : List (Container × Text)) :
    groupsOf keyed =
      .ok (((partition keyed).map (fun entry => Group.gather entry.1 entry.2) ++
        (orphans keyed).map (fun container => Group.gather [] [container])).mergeSort
          Group.groupOrder) := by
  rw [groupsOf, Group.mapM_make (members_ne_nil_of_mem_partition keyed),
    Group.mapM_make fun container _ => List.cons_ne_nil container []]
  rfl

def buildGroups (containers : List Container) (keys : List Text) : Except Fault (List Group) :=
  if containers.length ≠ keys.length then
    .error (.badValue (Text.of "Expected " ++ numeral containers.length ++ Text.of " keys, got " ++
      numeral keys.length))
  else
    groupsOf (containers.zip keys)

end Grouping

end ContainerDesk
