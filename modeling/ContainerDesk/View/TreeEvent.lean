import ContainerDesk.View.Tree

/-!
# What happens to the tree

The events of the tree: snapshots and failures come in, and the user filters, expands
and selects.
-/

namespace ContainerDesk

namespace Tree

inductive Event where
  | snapshot (groups : List Group)
  | placeholder (message : Text)
  | search (query : Text)
  | onlyRunning (onlyRunning : Bool)
  | expand (key : Text) (isExpanded : Bool)
  | select (path : List Nat)

/-- The tree after an event; none if the event needs a row that is not there. -/
def step? (language : Language) (tree : Tree) : Event → Option Tree
  | .snapshot groups => some (tree.setGroups language groups)
  | .placeholder message => some (tree.showPlaceholder language message)
  | .search query => some (tree.search language query)
  | .onlyRunning onlyRunning => some (tree.setOnlyRunning language onlyRunning)
  | .expand key isExpanded => tree.expand? key isExpanded
  | .select path => tree.select? path

/-- The tree after several events; those that need a row that is not there do nothing. -/
def after (language : Language) (tree : Tree) (events : List Event) : Tree :=
  events.foldl (fun tree event => (tree.step? language event).getD tree) tree

end Tree

end ContainerDesk
