import ContainerDesk.Proofs.Grouping.Building
import Mathlib.Data.List.Lex
import Mathlib.Data.Prod.Lex
import Mathlib.Order.Fin.Basic

/-!
# The order of groups and members

Groups and their members stand by keys that are compared part by part: first those that
run, then the size of a group or the label of a member, then a text that tells them
apart.  Texts are compared code point by code point.

Groups of containers with labels have different keys in any case, because their texts
are.  All other ties are left as they came: members of a group that agree in label,
identifier and state, and containers without a label that agree in state.
-/

namespace ContainerDesk

/-!
# Keys
-/

/-- Comparing by a feature first is comparing pairs with a key of the feature in front. -/
theorem firstBy_iff_le {α β γ δ : Type} [DecidableEq β] [LT γ] [LE δ] {feature : α → β}
    {before : β → β → Bool} {order : α → α → Bool} {rest : α → δ} (key : β → γ)
    (hkey : ∀ {x y}, x ≠ y → key x ≠ key y) (hirrefl : ∀ x, ¬ key x < key x)
    (hbefore : ∀ {x y}, x ≠ y → (before x y = true ↔ key x < key y))
    (horder : ∀ a b, order a b = true ↔ rest a ≤ rest b) (a b : α) :
    firstBy feature before order a b = true ↔
      toLex (key (feature a), rest a) ≤ toLex (key (feature b), rest b) := by
  rw [Prod.Lex.toLex_le_toLex]
  dsimp only
  rcases Decidable.em (feature a = feature b) with h | h
  · rw [firstBy_of_eq h, horder, h, or_iff_right (hirrefl _), and_iff_right rfl]
  · rw [firstBy_of_ne h, hbefore h, or_iff_left fun heq => hkey h heq.1]

theorem running_before_iff {x y : Bool} (h : x ≠ y) : x = true ↔ (!x) < (!y) := by
  cases x with
  | false => simp
  | true =>
      cases y with
      | false => decide
      | true => exact absurd rfl h

namespace Text

variable {s t : Text}

theorem atMost_iff_le : s.atMost t = true ↔ s ≤ t := by
  rw [le_iff_lt_or_eq]
  induction s generalizing t with
  | nil =>
      cases t with
      | nil => simp [atMost]
      | cons d t => simp [atMost]
  | cons c s ih =>
      cases t with
      | nil => simp [atMost]
      | cons d t => simp [atMost, ih, List.cons_lt_cons_iff, and_or_left, or_assoc]

theorem atMost_iff_lt (h : s ≠ t) : s.atMost t = true ↔ s < t := by
  rw [atMost_iff_le, le_iff_lt_or_eq, or_iff_left h]

end Text

theorem larger_before_iff {m n : Nat} : decide (n < m) = true ↔ -(m : Int) < -(n : Int) := by
  rw [decide_eq_true_eq]
  omega

/-- What decides about the place of a member: those that run stand first. -/
def Container.sortKey (container : Container) : Bool ×ₗ Text ×ₗ Text :=
  toLex (!container.isRunning, toLex (container.label, container.id))

namespace Group

/-- What decides about the place of a group: those with a member that runs stand first, then the
larger ones. -/
def sortKey (group : Group) : Bool ×ₗ Int ×ₗ Text :=
  toLex (!group.members.any Container.isRunning,
    toLex (-(group.members.length : Int), group.key))

def isLabelled (group : Group) : Bool :=
  group.members.all fun member => !member.label.isEmpty

theorem memberOrder_iff_le (first second : Container) :
    memberOrder first second = true ↔ first.sortKey ≤ second.sortKey := by
  rw [memberOrder_eq]
  apply firstBy_iff_le (fun running => !running) (by simp) (by simp) running_before_iff
  apply firstBy_iff_le id id lt_irrefl Text.atMost_iff_lt
  exact fun first second => Text.atMost_iff_le

theorem ties_memberOrder_iff {first second : Container} :
    ties memberOrder first second = true ↔ second.sortKey = first.sortKey := by
  rw [ties_memberOrder, Container.sortKey, Container.sortKey, toLex_inj, Prod.mk.injEq,
    toLex_inj, Prod.mk.injEq, Bool.not_inj_iff]
  simp only [eq_comm]

theorem groupOrder_iff_le {first second : Group}
    (hfirst : first.hasRunning = first.members.any Container.isRunning)
    (hsecond : second.hasRunning = second.members.any Container.isRunning) :
    groupOrder first second = true ↔ first.sortKey ≤ second.sortKey := by
  unfold sortKey
  rw [groupOrder_eq, ← hfirst, ← hsecond]
  apply firstBy_iff_le (fun running => !running) (by simp) (by simp) running_before_iff
  apply firstBy_iff_le (fun size : Nat => -(size : Int)) (by omega) (by simp)
    fun _ => larger_before_iff
  exact fun first second => Text.atMost_iff_le

theorem ties_groupOrder_iff {first second : Group}
    (hfirst : first.hasRunning = first.members.any Container.isRunning)
    (hsecond : second.hasRunning = second.members.any Container.isRunning) :
    ties groupOrder first second = true ↔ second.sortKey = first.sortKey := by
  rw [ties_groupOrder, sortKey, sortKey, toLex_inj, Prod.mk.injEq, toLex_inj, Prod.mk.injEq,
    Bool.not_inj_iff, Int.neg_inj, Int.natCast_inj, ← hfirst, ← hsecond]
  simp only [eq_comm]
  rfl

theorem hasRunning_eq_any (key : Text) (members : List Container) :
    (gather key members).hasRunning = (gather key members).members.any Container.isRunning := by
  rw [hasRunning_gather, (gather_members_perm key members).any_eq]

/-!
# Members
-/

theorem pairwise_members (key : Text) (members : List Container) :
    (gather key members).members.Pairwise fun first second => first.sortKey ≤ second.sortKey := by
  have hsorted :=
    List.pairwise_mergeSort isOrder_memberOrder.trans isOrder_memberOrder.total members
  exact hsorted.imp fun {first second} h => (memberOrder_iff_le first second).mp h

theorem filter_members (key : Text) (members : List Container) (place : Bool ×ₗ Text ×ₗ Text) :
    (gather key members).members.filter (fun member => decide (member.sortKey = place)) =
      members.filter fun member => decide (member.sortKey = place) := by
  apply filter_mergeSort isOrder_memberOrder
  intro first _ second _ hfirst hsecond
  have hsame : second.sortKey = first.sortKey :=
    (of_decide_eq_true hsecond).trans (of_decide_eq_true hfirst).symm
  exact (ties_eq_true.mp (ties_memberOrder_iff.mpr hsame)).1

end Group

namespace Grouping

variable {keyed : List (Container × Text)}

/-!
# Groups
-/

theorem isLabelled_membersUnder (keyed : List (Container × Text)) (key : Text) :
    (Group.gather key (membersUnder keyed key)).isLabelled = true := by
  apply List.all_eq_true.mpr
  intro member hmember
  have hlabel := (mem_membersUnder.mp (Group.mem_gather.mp hmember)).2
  simpa using hlabel

theorem isLabelled_orphan {container : Container} (h : container ∈ orphans keyed) :
    (Group.gather [] [container]).isLabelled = false := by
  have hlabel := (List.mem_filter.mp h).2
  simp [Group.isLabelled, hlabel]

theorem hasRunning_eq_any_of_mem {group : Group} (h : group ∈ sortedGroups keyed) :
    group.hasRunning = group.members.any Container.isRunning := by
  rcases mem_sortedGroups.mp h with ⟨key, _, rfl⟩ | ⟨container, _, rfl⟩
  · exact Group.hasRunning_eq_any key _
  · exact Group.hasRunning_eq_any [] _

theorem pairwise_sortedGroups (keyed : List (Container × Text)) :
    (sortedGroups keyed).Pairwise fun first second => first.sortKey ≤ second.sortKey := by
  have hsorted : (sortedGroups keyed).Pairwise fun first second =>
      Group.groupOrder first second = true := by
    rw [sortedGroups]
    exact List.pairwise_mergeSort Group.isOrder_groupOrder.trans Group.isOrder_groupOrder.total _
  apply hsorted.imp_of_mem
  intro first second hfirst hsecond h
  exact (Group.groupOrder_iff_le (hasRunning_eq_any_of_mem hfirst)
    (hasRunning_eq_any_of_mem hsecond)).mp h

/-- Groups of containers with labels never tie, because their keys are apart. -/
theorem pairwise_isLabelled (keyed : List (Container × Text)) :
    (sortedGroups keyed).Pairwise fun first second =>
      first.isLabelled = true → second.isLabelled = true → first.sortKey ≠ second.sortKey := by
  apply ((sortedGroups_perm keyed).pairwise_iff ?_).mpr
  · rw [unsortedGroups, List.pairwise_append]
    refine ⟨?_, ?_, ?_⟩
    · apply List.pairwise_map.mpr
      apply (nodup_labelledKeys keyed).imp
      intro key other hne _ _ hsame
      exact hne (congrArg (fun place => (ofLex (ofLex place).2).2) hsame)
    · apply List.pairwise_map.mpr
      apply List.pairwise_of_forall_mem_list
      intro container hcontainer _ _ hlabelled
      rw [isLabelled_orphan hcontainer] at hlabelled
      cases hlabelled
    · intro group _ other hother _ hlabelled
      rcases List.mem_map.mp hother with ⟨container, hcontainer, rfl⟩
      rw [isLabelled_orphan hcontainer] at hlabelled
      cases hlabelled
  · intro first second h hsecond hfirst hsame
    exact h hfirst hsecond hsame.symm

theorem filter_members_of_isLabelled {group : Group} (hgroup : group ∈ sortedGroups keyed)
    (hlabelled : group.isLabelled = true) (place : Bool ×ₗ Text ×ₗ Text) :
    group.members.filter (fun member => decide (member.sortKey = place)) =
      (keyed.filter fun entry => decide (entry.1.label ≠ [] ∧ entry.2 = group.key ∧
        entry.1.sortKey = place)).map (·.1) := by
  rcases mem_sortedGroups.mp hgroup with ⟨key, _, rfl⟩ | ⟨container, hcontainer, rfl⟩
  · rw [Group.filter_members, membersUnder, labelled, List.filter_map, List.filter_filter,
      List.filter_filter]
    congr 1
    apply List.filter_congr
    intro entry _
    rw [Bool.eq_iff_iff]
    simp [and_comm]
  · rw [isLabelled_orphan hcontainer] at hlabelled
    cases hlabelled

theorem filter_sortedGroups_unlabelled (keyed : List (Container × Text))
    (place : Bool ×ₗ Int ×ₗ Text) :
    (sortedGroups keyed).filter (fun group => !group.isLabelled && decide (group.sortKey = place)) =
      ((orphans keyed).map fun container => Group.gather [] [container]).filter fun group =>
        decide (group.sortKey = place) := by
  have hsorted : (sortedGroups keyed).filter
      (fun group => !group.isLabelled && decide (group.sortKey = place)) =
        (unsortedGroups keyed).filter
          fun group => !group.isLabelled && decide (group.sortKey = place) := by
    rw [sortedGroups]
    apply filter_mergeSort Group.isOrder_groupOrder
    intro first hfirst second hsecond hplace hplace'
    rw [Bool.and_eq_true, decide_eq_true_eq] at hplace hplace'
    have hfirst := hasRunning_eq_any_of_mem ((sortedGroups_perm keyed).mem_iff.mpr hfirst)
    have hsecond := hasRunning_eq_any_of_mem ((sortedGroups_perm keyed).mem_iff.mpr hsecond)
    have hties := (Group.ties_groupOrder_iff hfirst hsecond).mpr (hplace'.2.trans hplace.2.symm)
    exact (ties_eq_true.mp hties).1
  rw [hsorted, unsortedGroups, List.filter_append]
  have hlabelled : ((labelledKeys keyed).map fun key =>
      Group.gather key (membersUnder keyed key)).filter
        (fun group => !group.isLabelled && decide (group.sortKey = place)) = [] := by
    apply List.filter_eq_nil_iff.mpr
    intro group hgroup
    rcases List.mem_map.mp hgroup with ⟨key, _, rfl⟩
    simp [isLabelled_membersUnder]
  rw [hlabelled, List.nil_append]
  apply List.filter_congr
  intro group hgroup
  rcases List.mem_map.mp hgroup with ⟨container, hcontainer, rfl⟩
  rw [isLabelled_orphan hcontainer, Bool.not_false, Bool.true_and]

/-- Groups that are built with one key for each container stand by whether a member runs, then the
larger ones, then by key, and members by whether they run, then by label, then by identifier.
Groups of containers with labels have different sort keys.  Members of a group that tie keep the
order in which they came, and so do groups of containers without a label. -/
theorem buildGroups_ordered {containers : List Container} {keys : List Text}
    (hlength : containers.length = keys.length) :
    ∃ groups, buildGroups containers keys = .ok groups ∧
      groups.Pairwise (fun first second => first.sortKey ≤ second.sortKey) ∧
      (∀ group ∈ groups,
        group.members.Pairwise fun first second => first.sortKey ≤ second.sortKey) ∧
      groups.Pairwise (fun first second => first.isLabelled = true → second.isLabelled = true →
        first.sortKey ≠ second.sortKey) ∧
      (∀ group ∈ groups, group.isLabelled = true → ∀ place,
        group.members.filter (fun member => decide (member.sortKey = place)) =
          ((containers.zip keys).filter fun entry => decide (entry.1.label ≠ [] ∧
            entry.2 = group.key ∧ entry.1.sortKey = place)).map (·.1)) ∧
      ∀ place, groups.filter (fun group => !group.isLabelled && decide (group.sortKey = place)) =
        ((containers.filter fun container => container.label.isEmpty).map
          fun container => Group.gather [] [container]).filter
            fun group => decide (group.sortKey = place) := by
  refine ⟨_, buildGroups_eq hlength, pairwise_sortedGroups _, ?_, pairwise_isLabelled _, ?_, ?_⟩
  · intro group hgroup
    rcases exists_gather_of_mem hgroup with ⟨key, members, _, rfl⟩
    exact Group.pairwise_members key members
  · exact fun group hgroup hlabelled => filter_members_of_isLabelled hgroup hlabelled
  · intro place
    rw [filter_sortedGroups_unlabelled, orphans, List.map_fst_zip (Nat.le_of_eq hlength)]

def loneContainer (image : String) : Container :=
  ⟨Text.of " ", [], Text.of "running", Text.of image, [], []⟩

def tiedContainers : List Container :=
  let named (name image : String) : Container :=
    ⟨Text.of "7f", Text.of name, Text.of "exited", Text.of image, [], []⟩
  [named "web" "first", loneContainer "second", named "api" "third", named "web" "fourth",
    loneContainer "fifth"]

def tiedKeys : List Text :=
  [Text.of "w", Text.of "w", Text.of "w", Text.of "w", Text.of "a"]

/-- The containers that tie under one key stay in their order, and so do the groups of those without
a label. -/
theorem buildGroups_ordered_tied :
    tiedContainers.length = tiedKeys.length ∧
    ∃ groups, buildGroups tiedContainers tiedKeys = .ok groups ∧
      (∃ group ∈ groups, group.isLabelled = true ∧
        (group.members.filter fun member => decide (member.sortKey =
          toLex (true, toLex (Text.of "web", Text.of "7f")))).map (·.image) =
            [Text.of "first", Text.of "fourth"]) ∧
      (groups.filter fun group => !group.isLabelled && decide (group.sortKey =
        toLex (false, toLex (-1, [])))).map (fun group => group.members.map (·.image)) =
          [[Text.of "second"], [Text.of "fifth"]] := by
  have hlength : tiedContainers.length = tiedKeys.length := rfl
  rcases buildGroups_ordered hlength with ⟨groups, hgroups, _, _, _, hmembers, hlone⟩
  refine ⟨hlength, groups, hgroups, ?_, ?_⟩
  · have hbuilt : groups = sortedGroups (tiedContainers.zip tiedKeys) :=
      Except.ok.inj (hgroups.symm.trans (buildGroups_eq hlength))
    have hkey : Text.of "w" ∈ labelledKeys (tiedContainers.zip tiedKeys) := by decide
    have hgroup := mem_sortedGroups.mpr (.inl ⟨_, hkey, rfl⟩)
    rw [← hbuilt] at hgroup
    refine ⟨_, hgroup, isLabelled_membersUnder _ _, ?_⟩
    rw [hmembers _ hgroup (isLabelled_membersUnder _ _), Group.gather_key]
    decide
  · have hunlabelled : tiedContainers.filter (fun container => container.label.isEmpty) =
        [loneContainer "second", loneContainer "fifth"] := by decide
    rw [hlone, hunlabelled]
    simp [Group.sortKey, loneContainer, Container.isRunning, Container.runningState]

end Grouping

end ContainerDesk
