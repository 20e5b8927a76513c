import ContainerDesk.Proofs.Grouping.Snapshot
import ContainerDesk.Proofs.Text.Casing
import ContainerDesk.View.Tree

/-!
# What a tree draws

A tree draws the groups that its filters let through, each of them as a whole, and one
row that says so where there are none.

No two larger groups of a snapshot have one key, so a header that the user expands or
collapses is the only one of its key.  The tree is then as if it were drawn anew.
-/

namespace ContainerDesk

/-!
# Queries
-/

namespace Group

/-- Is a group to be shown?  Where only running groups are wanted, one of its members has to run.
Where the query is not blank, it has to stand in the key or in a cell of a member, in letters of
any case. -/
def IsWanted (columns : List Column) (query : Text) (onlyRunning : Bool) (group : Group) : Prop :=
  (onlyRunning = true → ∃ member ∈ group.members, member.isRunning = true) ∧
  (query.trim ≠ [] →
    query.trim.lower <:+: group.key.lower ∨
      ∃ member ∈ group.members, ∃ column ∈ columns,
        query.trim.lower <:+: (column.cell member).lower)

instance (columns : List Column) (query : Text) (onlyRunning : Bool) :
    DecidablePred (IsWanted columns query onlyRunning) :=
  fun _ => inferInstanceAs (Decidable (_ ∧ _))

end Group

/-!
# Snapshots
-/

/-- What a tree needs to know of the groups of a snapshot. -/
structure Grouping.IsSnapshot (groups : List Group) : Prop where
  inhabited : ∀ group ∈ groups, group.members ≠ []
  counted : ∀ group ∈ groups, group.hasRunning = group.members.any Container.isRunning
  /-- No two headers would be taken for each other. -/
  apart : groups.Pairwise fun group other =>
    group.isCollapsible = true → other.isCollapsible = true → group.key ≠ other.key

namespace Grouping

theorem isSnapshot_iff {groups : List Group} :
    IsSnapshot groups ↔
      (∀ group ∈ groups, group.members ≠ []) ∧
      (∀ group ∈ groups, group.hasRunning = group.members.any Container.isRunning) ∧
      groups.Pairwise fun group other =>
        group.isCollapsible = true → other.isCollapsible = true → group.key ≠ other.key :=
  ⟨fun h => ⟨h.inhabited, h.counted, h.apart⟩, fun h => ⟨h.1, h.2.1, h.2.2⟩⟩

instance : DecidablePred IsSnapshot :=
  fun _ => decidable_of_iff' _ isSnapshot_iff

theorem isSnapshot_nil : IsSnapshot [] where
  inhabited := fun _ hgroup => absurd hgroup List.not_mem_nil
  counted := fun _ hgroup => absurd hgroup List.not_mem_nil
  apart := List.Pairwise.nil

theorem isSnapshot_groupContainers (containers : List Container) :
    IsSnapshot (groupContainers containers) where
  inhabited := fun _ hgroup => members_ne_nil hgroup
  counted := by
    intro group hgroup
    have hgather : ∃ key members, group = Group.gather key members := by
      rcases mem_groupContainers.mp hgroup with ⟨_, _, _, rfl⟩ | ⟨_, _, _, rfl⟩
      · exact ⟨_, _, rfl⟩
      · exact ⟨_, _, rfl⟩
    rcases hgather with ⟨key, members, rfl⟩
    rw [Group.hasRunning_gather]
    exact ((Group.gather_members_perm key members).any_eq).symm
  apart := by
    apply (pairwise_key_groupContainers containers).imp_of_mem
    intro group other hgroup _ hshared hcollapsible _ hkey
    -- Only a container alone has an empty key, and its group has no header.
    rcases (key_eq_nil_iff hgroup).mp (hshared hkey) with ⟨member, hmembers, _⟩
    rw [Group.isCollapsible, Group.size, hmembers] at hcollapsible
    cases hcollapsible

theorem IsSnapshot.of_cons {group : Group} {rest : List Group} (h : IsSnapshot (group :: rest)) :
    IsSnapshot rest where
  inhabited := fun other hother => h.inhabited other (List.mem_cons_of_mem _ hother)
  counted := fun other hother => h.counted other (List.mem_cons_of_mem _ hother)
  apart := (List.pairwise_cons.mp h.apart).2

theorem IsSnapshot.filter {groups : List Group} (h : IsSnapshot groups) (keep : Group → Bool) :
    IsSnapshot (groups.filter keep) where
  inhabited := fun group hgroup => h.inhabited group (List.mem_filter.mp hgroup).1
  counted := fun group hgroup => h.counted group (List.mem_filter.mp hgroup).1
  apart := h.apart.filter keep

end Grouping

namespace Tree

open Grouping (IsSnapshot)

variable {tree : Tree}

theorem visibleGroups_eq_filter (tree : Tree) :
    tree.visibleGroups = tree.groups.filter fun group =>
      (!tree.onlyRunning || group.hasRunning) &&
        (tree.query.trim.lower.isEmpty || tree.isMatch tree.query.trim.lower group) := by
  unfold visibleGroups
  dsimp only
  generalize tree.query.trim.lower = query
  cases tree.onlyRunning with
  | false => cases hquery : query.isEmpty <;> simp
  | true => cases hquery : query.isEmpty <;> simp [List.filter_filter, Bool.and_comm]

theorem isMatch_eq_true {query : Text} {group : Group} :
    tree.isMatch query group = true ↔
      query <:+: group.key.lower ∨
        ∃ member ∈ group.members, ∃ column ∈ tree.columns,
          query <:+: (column.cell member).lower := by
  simp only [isMatch, Bool.or_eq_true, List.any_eq_true, Text.occursIn_eq_true]

theorem visibleGroups_eq (h : IsSnapshot tree.groups) :
    tree.visibleGroups = tree.groups.filter fun group =>
      decide (group.IsWanted tree.columns tree.query tree.onlyRunning) := by
  rw [visibleGroups_eq_filter]
  apply List.filter_congr
  intro group hgroup
  rw [Bool.eq_iff_iff, decide_eq_true_eq, Group.IsWanted, Bool.and_eq_true, Bool.or_eq_true,
    Bool.or_eq_true, h.counted group hgroup, List.any_eq_true, isMatch_eq_true, List.isEmpty_iff,
    Text.lower_eq_nil, Bool.not_eq_true', ← Bool.not_eq_true, ← imp_iff_not_or,
    or_iff_not_imp_left]

theorem isSnapshot_visibleGroups (h : IsSnapshot tree.groups) : IsSnapshot tree.visibleGroups := by
  rw [visibleGroups_eq h]
  exact h.filter _

/-!
# Rows
-/

/-- Does a row show a group, the whole of it?  A container alone has a plain row, and several have
rows under a header, which has the key and the counts of the group. -/
def Shows (tree : Tree) (language : Language) (group : Group) : Row → Prop
  | .record row => group.members = [row.container] ∧ row = tree.recordRow row.container
  | .header row =>
      1 < group.members.length ∧ row.key = group.key ∧
        [group.key, group.summary language] <+: row.cells ∧
        row.rows = group.members.map tree.recordRow ∧
        (row.isExpanded = true ↔ group.key ∈ tree.expanded)
  | .placeholder _ => False

def headerRow (tree : Tree) (language : Language) (group : Group) : HeaderRow :=
  {
    key := group.key
    cells := [group.key, group.summary language] ++ List.replicate (tree.columnCount - 2) []
    hasRunning := group.hasRunning
    isExpanded := group.key ∈ tree.expanded
    rows := group.members.map tree.recordRow
  }

theorem groupRow_of_collapsible (language : Language) {group : Group}
    (h : group.isCollapsible = true) :
    tree.groupRow language group = .header (tree.headerRow language group) := by
  unfold groupRow
  rw [h]
  rfl

theorem groupRow_of_single (language : Language) {group : Group} {container : Container}
    (h : group.members = [container]) :
    tree.groupRow language group = .record (tree.recordRow container) := by
  have hsingle : group.isCollapsible = false := by
    rw [Group.isCollapsible, Group.size, h]
    rfl
  unfold groupRow
  rw [hsingle, h]

theorem single_or_collapsible {group : Group} (h : group.members ≠ []) :
    (∃ container, group.members = [container]) ∨ group.isCollapsible = true := by
  unfold Group.isCollapsible Group.size
  match hmembers : group.members with
  | [] => exact absurd hmembers h
  | [container] => exact .inl ⟨container, rfl⟩
  | first :: second :: rest => exact .inr (by simp)

theorem shows_groupRow (language : Language) {group : Group} (h : group.members ≠ []) :
    tree.Shows language group (tree.groupRow language group) := by
  rcases single_or_collapsible h with ⟨container, hmembers⟩ | hcollapsible
  · rw [groupRow_of_single language hmembers]
    exact ⟨hmembers, rfl⟩
  · rw [groupRow_of_collapsible language hcollapsible]
    refine ⟨of_decide_eq_true hcollapsible, rfl, List.prefix_append _ _, rfl, ?_⟩
    exact decide_eq_true_iff

/-!
# Trees as they were drawn
-/

/-- Does the tree show what it would show if it were drawn anew? -/
def IsDrawn (tree : Tree) (language : Language) : Prop :=
  tree.rows = tree.drawnRows language

theorem isDrawn_redraw (tree : Tree) (language : Language) :
    (tree.redraw language).IsDrawn language := rfl

namespace IsDrawn

variable {language : Language}

theorem rows_of_nil (h : tree.IsDrawn language) (hnone : tree.visibleGroups = []) :
    tree.rows = [tree.placeholderRow] := by
  rw [h, drawnRows, hnone]

theorem rows_of_ne_nil (h : tree.IsDrawn language) (hsome : tree.visibleGroups ≠ []) :
    tree.rows = tree.visibleGroups.map (tree.groupRow language) := by
  rw [h, drawnRows]
  split
  · rename_i hnone
    exact absurd hnone hsome
  · rfl

theorem forall₂_shows (h : tree.IsDrawn language) (hsnapshot : IsSnapshot tree.groups)
    (hsome : tree.visibleGroups ≠ []) :
    List.Forall₂ (tree.Shows language) tree.visibleGroups tree.rows := by
  rw [h.rows_of_ne_nil hsome, List.forall₂_map_right_iff, List.forall₂_same]
  intro group hgroup
  exact shows_groupRow language ((isSnapshot_visibleGroups hsnapshot).inhabited group hgroup)

theorem shown_eq (h : tree.IsDrawn language) (hsnapshot : IsSnapshot tree.groups) :
    tree.shown = tree.visibleGroups.flatMap Group.members := by
  by_cases hnone : tree.visibleGroups = []
  · rw [shown, h.rows_of_nil hnone, hnone]
    rfl
  · rw [shown, h.rows_of_ne_nil hnone, List.flatMap_map]
    apply List.flatMap_congr
    intro group hgroup
    have hmembers := (isSnapshot_visibleGroups hsnapshot).inhabited group hgroup
    rcases single_or_collapsible hmembers with ⟨container, hmembers⟩ | hcollapsible
    · rw [groupRow_of_single language hmembers, hmembers]
      rfl
    · rw [groupRow_of_collapsible language hcollapsible]
      simp [headerRow, recordRow, Function.comp_def]

end IsDrawn

/-!
# Headers that are expanded or collapsed
-/

theorem mem_rememberExpanded {expanded : List Text} {key other : Text} {isExpanded : Bool} :
    other ∈ rememberExpanded expanded key isExpanded ↔
      if other = key then isExpanded = true else other ∈ expanded := by
  unfold rememberExpanded
  cases isExpanded with
  | false => by_cases h : other = key <;> simp [h]
  | true =>
      by_cases h : other = key
      · by_cases hmem : key ∈ expanded <;> simp [h, hmem]
      · by_cases hmem : key ∈ expanded <;> simp [h, hmem]

theorem expandRows_cons_of_ne {key : Text} {isExpanded : Bool} {first : Row} (rest : List Row)
    (h : ∀ row, first = Row.header row → row.key ≠ key) :
    expandRows key isExpanded (first :: rest) = first :: expandRows key isExpanded rest := by
  cases first with
  | record row => rfl
  | header row => rw [expandRows, if_neg (h row rfl)]
  | placeholder cells => rfl

theorem groupRow_setExpanded_of_ne (tree : Tree) (language : Language) {key : Text}
    (isExpanded : Bool) {group : Group} (hmembers : group.members ≠ [])
    (h : group.isCollapsible = true → group.key ≠ key) :
    (tree.setExpanded key isExpanded).groupRow language group = tree.groupRow language group := by
  rcases single_or_collapsible hmembers with ⟨container, hsingle⟩ | hcollapsible
  · rw [groupRow_of_single language hsingle, groupRow_of_single language hsingle]
    rfl
  · rw [groupRow_of_collapsible language hcollapsible,
      groupRow_of_collapsible language hcollapsible]
    simp only [headerRow, setExpanded, mem_rememberExpanded, if_neg (h hcollapsible)]
    rfl

theorem headerRow_setExpanded (tree : Tree) (language : Language) (isExpanded : Bool)
    (group : Group) :
    (tree.setExpanded group.key isExpanded).headerRow language group =
      { tree.headerRow language group with isExpanded } := by
  simp only [headerRow, setExpanded, mem_rememberExpanded, if_true, Bool.decide_eq_true]
  rfl

/-- The first header with a key is the only one, so the rows of the groups are then as they are
drawn with the key remembered. -/
theorem expandRows_map_groupRow (tree : Tree) (language : Language) (key : Text)
    (isExpanded : Bool) {groups : List Group} (h : IsSnapshot groups) :
    expandRows key isExpanded (groups.map (tree.groupRow language)) =
      groups.map ((tree.setExpanded key isExpanded).groupRow language) := by
  induction groups with
  | nil => rfl
  | cons group rest ih =>
      have hmembers := h.inhabited group List.mem_cons_self
      have hapart := (List.pairwise_cons.mp h.apart).1
      rw [List.map_cons, List.map_cons]
      by_cases hkey : group.isCollapsible = true ∧ group.key = key
      · rcases hkey with ⟨hcollapsible, rfl⟩
        -- No later header has the key, so their rows are drawn the same.
        have hrest : rest.map (tree.groupRow language) =
            rest.map ((tree.setExpanded group.key isExpanded).groupRow language) := by
          apply List.map_congr_left
          intro other hother
          have hne : other.isCollapsible = true → other.key ≠ group.key := fun hlarge =>
            (hapart other hother hcollapsible hlarge).symm
          have hinhabited := h.of_cons.inhabited other hother
          exact (groupRow_setExpanded_of_ne tree language isExpanded hinhabited hne).symm
        rw [groupRow_of_collapsible language hcollapsible,
          groupRow_of_collapsible language hcollapsible, headerRow_setExpanded, ← hrest]
        exact if_pos rfl
      · have hne : group.isCollapsible = true → group.key ≠ key := fun hlarge heq =>
          hkey ⟨hlarge, heq⟩
        rw [expandRows_cons_of_ne, groupRow_setExpanded_of_ne tree language isExpanded hmembers hne,
          ih h.of_cons]
        intro row hrow
        rcases single_or_collapsible hmembers with ⟨container, hsingle⟩ | hcollapsible
        · rw [groupRow_of_single language hsingle] at hrow
          cases hrow
        · rw [groupRow_of_collapsible language hcollapsible] at hrow
          cases hrow
          exact hne hcollapsible

theorem IsDrawn.setExpanded {language : Language} (h : tree.IsDrawn language)
    (hsnapshot : IsSnapshot tree.groups) (key : Text) (isExpanded : Bool) :
    (tree.setExpanded key isExpanded).IsDrawn language := by
  have hvisible : (tree.setExpanded key isExpanded).visibleGroups = tree.visibleGroups := rfl
  unfold IsDrawn
  by_cases hnone : tree.visibleGroups = []
  · have hrows : (tree.setExpanded key isExpanded).rows = tree.rows := by
      show expandRows key isExpanded tree.rows = tree.rows
      rw [h.rows_of_nil hnone]
      rfl
    rw [hrows, h.rows_of_nil hnone, drawnRows, hvisible, hnone]
    rfl
  · have hrows : (tree.setExpanded key isExpanded).rows =
        tree.visibleGroups.map ((tree.setExpanded key isExpanded).groupRow language) := by
      show expandRows key isExpanded tree.rows = _
      rw [h.rows_of_ne_nil hnone]
      exact expandRows_map_groupRow tree language key isExpanded
        (isSnapshot_visibleGroups hsnapshot)
    rw [hrows, drawnRows, hvisible]
    split
    · rename_i hnil
      exact absurd hnil hnone
    · rfl

theorem mem_rows_of_header? {key : Text} {row : HeaderRow} (h : tree.header? key = some row) :
    .header row ∈ tree.rows ∧ row.key = key := by
  rcases List.exists_of_findSome?_eq_some h with ⟨found, hfound, hrow⟩
  split at hrow
  · split at hrow
    · rename_i hkey
      cases hrow
      exact ⟨hfound, hkey⟩
    · cases hrow
  · cases hrow

theorem expand?_cases {key : Text} {isExpanded : Bool} {after : Tree}
    (h : tree.expand? key isExpanded = some after) :
    ∃ row, .header row ∈ tree.rows ∧ row.key = key ∧
      (row.isExpanded = isExpanded ∧ after = tree ∨ after = tree.setExpanded key isExpanded) := by
  unfold expand? at h
  cases hheader : tree.header? key with
  | none =>
      rw [hheader] at h
      cases h
  | some row =>
      rw [hheader] at h
      rcases mem_rows_of_header? hheader with ⟨hrow, hkey⟩
      refine ⟨row, hrow, hkey, ?_⟩
      by_cases hsame : row.isExpanded = isExpanded
      · exact .inl ⟨hsame, (Option.some.inj ((if_pos hsame).symm.trans h)).symm⟩
      · exact .inr (Option.some.inj ((if_neg hsame).symm.trans h)).symm

end Tree

end ContainerDesk
