import ContainerDesk.Proofs.Grouping.Snapshot

/-!
# The order of a snapshot

What a group is called and who is in it never depends on the order in which the
containers of a snapshot come.  That order only shows where different containers tie:
members of one family with one identifier, or containers without a label, that agree in
whether they run.  They keep the order in which they came.

So the groups are the same for every order of a snapshot exactly when no different
containers tie.  And since the groups show what ties in the order of the snapshot, the
members that they show make up a snapshot with the same groups.
-/

namespace ContainerDesk

namespace Grouping

/-- Do two containers come out in the order in which they went in? -/
def AreTied (first second : Container) : Prop :=
  first.isRunning = second.isRunning ∧
    ((first.label ≠ [] ∧ first.label = second.label ∧ first.id = second.id) ∨
      (first.label = [] ∧ second.label = []))

instance (first second : Container) : Decidable (AreTied first second) := by
  unfold AreTied
  infer_instance

theorem AreTied.refl (container : Container) : AreTied container container := by
  refine ⟨rfl, ?_⟩
  rcases Decidable.em (container.label = []) with h | h
  · exact Or.inr ⟨h, h⟩
  · exact Or.inl ⟨h, rfl, rfl⟩

/-!
# What ties
-/

theorem areTied_iff_of_label_ne_nil {first second : Container} (hlabel : first.label ≠ []) :
    AreTied first second ↔ ties Group.memberOrder first second = true := by
  rw [Group.ties_memberOrder]
  constructor
  · rintro ⟨hrun, ⟨_, hsame⟩ | ⟨hempty, _⟩⟩
    · exact ⟨hrun, hsame⟩
    · exact absurd hempty hlabel
  · rintro ⟨hrun, hsame⟩
    exact ⟨hrun, Or.inl ⟨hlabel, hsame⟩⟩

theorem filter_tied_family (containers : List Container) {container : Container}
    (hlabel : container.label ≠ []) :
    (family containers (firstSegment container.label)).filter (ties Group.memberOrder container) =
      containers.filter fun other => AreTied container other := by
  rw [family, List.filter_filter]
  apply List.filter_congr
  intro other _
  rw [Bool.eq_iff_iff, Bool.and_eq_true, decide_eq_true_eq, decide_eq_true_eq,
    areTied_iff_of_label_ne_nil hlabel]
  constructor
  · exact And.left
  · intro htied
    have hsame := (Group.ties_memberOrder.mp htied).2.1
    exact ⟨htied, hsame ▸ hlabel, by rw [← hsame]⟩

theorem filter_tied_of_label_eq_nil (containers : List Container) {container : Container}
    (hlabel : container.label = []) :
    (containers.filter fun other => AreTied container other) =
      containers.filter fun other =>
        other.label.isEmpty && other.isRunning == container.isRunning := by
  apply List.filter_congr
  intro other _
  by_cases hother : other.label = []
  · have hrun : (other.isRunning == container.isRunning) =
        decide (container.isRunning = other.isRunning) := by
      cases other.isRunning <;> cases container.isRunning <;> rfl
    simp [AreTied, hlabel, hother, hrun]
  · simp [AreTied, hlabel, hother]

def isLone (running : Bool) (group : Group) : Bool :=
  decide (group.key = [] ∧ group.hasRunning = running)

theorem isLone_eq_true {running : Bool} {group : Group} :
    isLone running group = true ↔ group.key = [] ∧ group.hasRunning = running :=
  decide_eq_true_iff

theorem mem_unsortedGroups {containers : List Container} {group : Group} :
    group ∈ unsortedGroups (keyedIn containers) ↔ group ∈ groupContainers containers := by
  rw [groupContainers_eq, (sortedGroups_perm _).mem_iff]

theorem ties_eq_isLone {containers : List Container} {group other : Group}
    (hgroup : group ∈ groupContainers containers) (hother : other ∈ groupContainers containers)
    (hkey : group.key = []) :
    ties Group.groupOrder group other = isLone group.hasRunning other := by
  rw [Bool.eq_iff_iff, Group.ties_groupOrder, isLone_eq_true, hkey]
  constructor
  · rintro ⟨hrun, _, hsame⟩
    exact ⟨hsame.symm, hrun.symm⟩
  · rintro ⟨hempty, hrun⟩
    rcases (key_eq_nil_iff hgroup).mp hkey with ⟨_, hmembers, _⟩
    rcases (key_eq_nil_iff hother).mp hempty with ⟨_, hmembers', _⟩
    exact ⟨hrun.symm, by simp [Group.size, hmembers, hmembers'], hempty.symm⟩

theorem filter_isLone_unsortedGroups (containers : List Container) (running : Bool) :
    (unsortedGroups (keyedIn containers)).filter (isLone running) =
      (containers.filter fun other => other.label.isEmpty && other.isRunning == running).map
        fun other => Group.gather [] [other] := by
  have hfamilies : ((labelledKeys (keyedIn containers)).map fun key =>
      Group.gather key (membersUnder (keyedIn containers) key)).filter (isLone running) = [] := by
    apply List.filter_eq_nil_iff.mpr
    intro group hgroup
    rcases List.mem_map.mp hgroup with ⟨key, hkey, rfl⟩
    rcases mem_labelledKeys_keyedIn.mp hkey with ⟨container, hmem, hlabel, rfl⟩
    simp [isLone, keyIn_ne_nil hmem hlabel]
  rw [unsortedGroups, List.filter_append, hfamilies, List.nil_append, orphans_keyedIn,
    List.filter_map, List.filter_filter]
  congr 1
  apply List.filter_congr
  intro other _
  cases hrun : other.isRunning <;> cases running <;> simp [isLone, hrun]

/-!
# Snapshots of the same containers
-/

section Permuted

variable {containers others : List Container} (hperm : containers.Perm others)

include hperm

/-- A key does not depend on the order of the snapshot. -/
theorem keyIn_eq_of_perm {container : Container} (hmem : container ∈ containers) :
    keyIn containers container = keyIn others container := by
  by_cases hlabel : container.label = []
  · rw [keyIn_of_label_eq_nil _ hlabel, keyIn_of_label_eq_nil _ hlabel]
  · have hfamily : ∀ member,
        member ∈ family containers (firstSegment container.label) ↔
          member ∈ family others (firstSegment container.label) := by
      intro member
      rw [mem_family, mem_family, hperm.mem_iff]
    have hkey := isLongestShared_keyIn hmem hlabel
    have hkey' := isLongestShared_keyIn (hperm.mem_iff.mp hmem) hlabel
    apply hkey.eq
    constructor
    · intro member hmember
      exact hkey'.shared member ((hfamily member).mp hmember)
    · intro other hother
      apply hkey'.longest other
      intro member hmember
      exact hother member ((hfamily member).mpr hmember)

theorem keyedIn_perm : (keyedIn containers).Perm (keyedIn others) := by
  have hsame : keyedIn containers =
      containers.map fun container => (container, keyIn others container) := by
    apply List.map_congr_left
    intro container hmem
    rw [keyIn_eq_of_perm hperm hmem]
  rw [hsame]
  exact hperm.map _

theorem labelledKeys_perm :
    (labelledKeys (keyedIn containers)).Perm (labelledKeys (keyedIn others)) := by
  apply (List.perm_ext_iff_of_nodup (nodup_labelledKeys _) (nodup_labelledKeys _)).mpr
  intro key
  simp only [mem_labelledKeys, (keyedIn_perm hperm).mem_iff]

theorem membersUnder_perm (key : Text) :
    (membersUnder (keyedIn containers) key).Perm (membersUnder (keyedIn others) key) :=
  (((keyedIn_perm hperm).filter _).filter _).map _

variable (hties : ∀ container ∈ containers,
  (containers.filter fun other => AreTied container other) =
    others.filter fun other => AreTied container other)

include hties

theorem gather_membersUnder_eq (key : Text) :
    Group.gather key (membersUnder (keyedIn containers) key) =
      Group.gather key (membersUnder (keyedIn others) key) := by
  apply Group.gather_eq_of_ties key (membersUnder_perm hperm key)
  intro member hmember
  rcases mem_membersUnder.mp hmember with ⟨hkeyed, hlabel⟩
  rcases mem_keyedIn.mp hkeyed with ⟨hmem, rfl⟩
  rw [membersUnder_keyIn hmem hlabel, keyIn_eq_of_perm hperm hmem,
    membersUnder_keyIn (hperm.mem_iff.mp hmem) hlabel, filter_tied_family containers hlabel,
    filter_tied_family others hlabel]
  exact hties member hmem

theorem unsortedGroups_perm :
    (unsortedGroups (keyedIn containers)).Perm (unsortedGroups (keyedIn others)) := by
  unfold unsortedGroups
  apply List.Perm.append
  · simp only [gather_membersUnder_eq hperm hties]
    exact (labelledKeys_perm hperm).map _
  · rw [orphans_keyedIn, orphans_keyedIn]
    exact (hperm.filter _).map _

/-- Snapshots of the same containers in which what ties comes in one order have the same
groups. -/
theorem groupContainers_eq_of_ties : groupContainers containers = groupContainers others := by
  have hunsorted := unsortedGroups_perm hperm hties
  rw [groupContainers_eq, groupContainers_eq, sortedGroups, sortedGroups]
  apply mergeSort_eq_of_ties Group.isOrder_groupOrder hunsorted
  intro group hgroup
  have hmem := mem_unsortedGroups.mp hgroup
  by_cases hkey : group.key = []
  · rcases (key_eq_nil_iff hmem).mp hkey with ⟨member, hmembers, hlabel⟩
    have hlone := eq_gather_nil_of_mem hmem (by simp [hmembers]) hlabel
    have hrun : group.hasRunning = member.isRunning := by
      rw [hlone, Group.hasRunning_gather_singleton]
    have hfilter : ∀ groups : List Group,
        (∀ other ∈ groups, other ∈ unsortedGroups (keyedIn containers)) →
        groups.filter (ties Group.groupOrder group) = groups.filter (isLone member.isRunning) := by
      intro groups hgroups
      apply List.filter_congr
      intro other hother
      rw [ties_eq_isLone hmem (mem_unsortedGroups.mp (hgroups other hother)) hkey, hrun]
    have hmember := mem_of_mem_group hmem (by simp [hmembers] : member ∈ group.members)
    rw [hfilter _ fun _ h => h, hfilter _ fun _ h => hunsorted.mem_iff.mpr h,
      filter_isLone_unsortedGroups, filter_isLone_unsortedGroups,
      ← filter_tied_of_label_eq_nil containers hlabel, ← filter_tied_of_label_eq_nil others hlabel,
      hties member hmember]
  · -- Keys of families are apart from each other, so nothing else ties with the group.
    apply filter_eq_of_perm hunsorted
    intro other hother htied
    exact (eq_of_key_eq hmem (mem_unsortedGroups.mp hother) hkey
      (Group.ties_groupOrder.mp htied).2.2).symm

end Permuted

theorem groupContainers_eq_of_perm {containers others : List Container}
    (hperm : containers.Perm others)
    (htie : ∀ first ∈ containers, ∀ second ∈ containers, AreTied first second → first = second) :
    groupContainers containers = groupContainers others := by
  apply groupContainers_eq_of_ties hperm
  intro container hmem
  apply filter_eq_of_perm hperm
  intro other hother htied
  exact (htie container hmem other hother (of_decide_eq_true htied)).symm

/-!
# With ties

What ties with a container comes out in the order in which it went in, so the order of a
snapshot can be seen in its groups.
-/

def shownMembers (groups : List Group) : List Container :=
  groups.flatMap Group.members

theorem filter_shownMembers (groups : List Group) (p : Container → Bool) :
    (shownMembers groups).filter p = groups.flatMap fun group => group.members.filter p :=
  List.filter_flatMap

theorem filter_tied_eq_nil {containers : List Container} {group : Group} {container : Container}
    (hgroup : group ∈ groupContainers containers) (hmem : container ∈ containers)
    (hlabel : container.label ≠ []) (hkey : group.key ≠ keyIn containers container) :
    group.members.filter (fun other => AreTied container other) = [] := by
  apply List.filter_eq_nil_iff.mpr
  intro other hother htied
  rcases (of_decide_eq_true htied).2 with ⟨_, hsame, _⟩ | ⟨hempty, _⟩
  · have hotherLabel : other.label ≠ [] := hsame ▸ hlabel
    apply hkey
    rw [eq_gather_of_mem hgroup hother hotherLabel, Group.gather_key]
    apply (keyIn_eq_keyIn_iff (mem_of_mem_group hgroup hother) hmem hotherLabel hlabel).mpr
    rw [hsame]
  · exact hlabel hempty

theorem filter_tied_gather {containers : List Container} {container : Container} (key : Text)
    (hlabel : container.label ≠ []) :
    (Group.gather key (family containers (firstSegment container.label))).members.filter
        (fun other => AreTied container other) =
      containers.filter fun other => AreTied container other := by
  rw [← filter_tied_family containers hlabel, ← filter_ties_mergeSort Group.isOrder_memberOrder,
    Group.gather_members]
  apply List.filter_congr
  intro other _
  rw [Bool.eq_iff_iff, decide_eq_true_eq, areTied_iff_of_label_ne_nil hlabel]

theorem filter_tied_shownMembers_of_label_ne_nil {containers : List Container}
    {container : Container} (hmem : container ∈ containers) (hlabel : container.label ≠ []) :
    (shownMembers (groupContainers containers)).filter (fun other => AreTied container other) =
      containers.filter fun other => AreTied container other := by
  rcases List.mem_flatMap.mp ((flatMap_members_groupContainers containers).mem_iff.mpr hmem) with
    ⟨group, hgroup, hmember⟩
  have hgroupEq := eq_gather_of_mem hgroup hmember hlabel
  have hne := key_ne_nil hgroup hmember hlabel
  rcases List.append_of_mem hgroup with ⟨before, after, hsplit⟩
  -- No other group has the key of this one, so nothing in the others ties.
  have hpairwise := pairwise_key_groupContainers containers
  rw [hsplit, List.pairwise_append, List.pairwise_cons] at hpairwise
  have hkey : group.key = keyIn containers container := by
    rw [hgroupEq]
    rfl
  have hbefore : before.flatMap (fun other =>
      other.members.filter fun member => AreTied container member) = [] := by
    apply List.flatMap_eq_nil_iff.mpr
    intro other hother
    apply filter_tied_eq_nil (hsplit ▸ List.mem_append_left _ hother) hmem hlabel
    intro hsame
    rw [← hkey] at hsame
    exact hne (hsame ▸ hpairwise.2.2 other hother group (List.mem_cons_self ..) hsame)
  have hafter : after.flatMap (fun other =>
      other.members.filter fun member => AreTied container member) = [] := by
    apply List.flatMap_eq_nil_iff.mpr
    intro other hother
    apply filter_tied_eq_nil
      (hsplit ▸ List.mem_append_right before (List.mem_cons_of_mem group hother)) hmem hlabel
    intro hsame
    rw [← hkey] at hsame
    exact hne (hpairwise.2.1.1 other hother hsame.symm)
  rw [filter_shownMembers, hsplit, List.flatMap_append, List.flatMap_cons, hbefore, hafter,
    List.nil_append, List.append_nil, hgroupEq]
  exact filter_tied_gather _ hlabel

theorem filter_tied_eq_ite {containers : List Container} {group : Group} {container : Container}
    (hgroup : group ∈ groupContainers containers) (hlabel : container.label = []) :
    group.members.filter (fun other => AreTied container other) =
      if isLone container.isRunning group then group.members else [] := by
  rcases List.exists_mem_of_ne_nil group.members (members_ne_nil hgroup) with ⟨first, hfirst⟩
  by_cases hfirstLabel : first.label = []
  · rw [eq_gather_nil_of_mem hgroup hfirst hfirstLabel]
    by_cases hrun : first.isRunning = container.isRunning
    · simp [isLone, AreTied, hrun, hlabel, hfirstLabel]
    · simp [isLone, AreTied, hrun, Ne.symm hrun]
  · have hkey := key_ne_nil hgroup hfirst hfirstLabel
    have hlone : isLone container.isRunning group = false := by simp [isLone, hkey]
    rw [hlone, if_neg Bool.false_ne_true, List.filter_eq_nil_iff]
    intro other hother htied
    rcases (of_decide_eq_true htied).2 with ⟨hne, _⟩ | ⟨_, hempty⟩
    · exact hne hlabel
    · rw [eq_gather_nil_of_mem hgroup hother hempty] at hkey
      exact hkey rfl

theorem filter_isLone_groupContainers (containers : List Container) (running : Bool) :
    (groupContainers containers).filter (isLone running) =
      (containers.filter fun other => other.label.isEmpty && other.isRunning == running).map
        fun other => Group.gather [] [other] := by
  rw [← filter_isLone_unsortedGroups, groupContainers_eq, sortedGroups]
  apply filter_mergeSort Group.isOrder_groupOrder
  intro group hgroup other hother hlone hlone'
  rcases isLone_eq_true.mp hlone with ⟨hkey, hrun⟩
  have htied := ties_eq_isLone (mem_unsortedGroups.mp hgroup) (mem_unsortedGroups.mp hother) hkey
  rw [hrun, hlone'] at htied
  exact (ties_eq_true.mp htied).1

theorem filter_tied_shownMembers_of_label_eq_nil (containers : List Container)
    {container : Container} (hlabel : container.label = []) :
    (shownMembers (groupContainers containers)).filter (fun other => AreTied container other) =
      containers.filter fun other => AreTied container other := by
  have hlone : ∀ groups : List Group, (∀ group ∈ groups, group ∈ groupContainers containers) →
      (groups.flatMap fun group =>
          group.members.filter fun other => AreTied container other) =
        (groups.filter (isLone container.isRunning)).flatMap Group.members := by
    intro groups hgroups
    induction groups with
    | nil => rfl
    | cons group rest ih =>
        have hrest := ih fun other hother => hgroups other (List.mem_cons_of_mem group hother)
        rw [List.flatMap_cons, hrest, filter_tied_eq_ite (hgroups group (by simp)) hlabel]
        cases h : isLone container.isRunning group <;> simp [h]
  rw [filter_shownMembers, hlone _ (fun _ h => h), filter_isLone_groupContainers,
    List.flatMap_map, filter_tied_of_label_eq_nil containers hlabel]
  simp only [Group.gather_singleton_members, List.flatMap_singleton']

/-- What ties with a container of the snapshot is shown in the order of the snapshot. -/
theorem filter_tied_shownMembers {containers : List Container} {container : Container}
    (hmem : container ∈ containers) :
    (shownMembers (groupContainers containers)).filter (fun other => AreTied container other) =
      containers.filter fun other => AreTied container other := by
  by_cases hlabel : container.label = []
  · exact filter_tied_shownMembers_of_label_eq_nil containers hlabel
  · exact filter_tied_shownMembers_of_label_ne_nil hmem hlabel

/-- The groups of a snapshot are the same for every order of its containers exactly when no two
different containers tie: those that agree in whether they run and either have one label, which
is not empty, and one identifier, or both have an empty label. -/
theorem groupContainers_orderFree_iff (containers : List Container) :
    (∀ others : List Container, others.Perm containers →
        groupContainers others = groupContainers containers) ↔
      ¬ ∃ first ∈ containers, ∃ second ∈ containers, first ≠ second ∧
        first.isRunning = second.isRunning ∧
          ((first.label ≠ [] ∧ first.label = second.label ∧ first.id = second.id) ∨
            (first.label = [] ∧ second.label = [])) := by
  constructor
  · rintro hfree ⟨first, hfirst, second, hsecond, hne, htied⟩
    have htied : AreTied first second := htied
    -- With the two in front, in one order and in the other, the same groups would show both orders.
    have hrest : containers.Perm (first :: second :: (containers.erase first).erase second) := by
      have hsecond : second ∈ containers.erase first :=
        (List.mem_erase_of_ne (Ne.symm hne)).mpr hsecond
      exact (List.perm_cons_erase hfirst).trans ((List.perm_cons_erase hsecond).cons first)
    have hswap := hrest.trans (List.Perm.swap second first _)
    have hsame := (hfree _ hrest.symm).trans (hfree _ hswap.symm).symm
    have hshown := congrArg (List.filter fun other => decide (AreTied first other))
      (congrArg shownMembers hsame)
    rw [filter_tied_shownMembers (by simp), filter_tied_shownMembers (by simp)] at hshown
    simp only [List.filter_cons, htied, AreTied.refl first, decide_true, if_true] at hshown
    exact hne (List.cons.inj hshown).1
  · intro hnone others hperm
    apply groupContainers_eq_of_perm hperm
    intro first hfirst second hsecond htied
    rcases Decidable.em (first = second) with h | h
    · exact h
    · exact absurd ⟨first, hperm.mem_iff.mp hfirst, second, hperm.mem_iff.mp hsecond, h, htied⟩
        hnone

/-- The containers that the groups show, in the order in which they are shown, have the same groups
again: the same keys, members, counts and orders, ties and containers without a label included. -/
theorem groupContainers_shownMembers (containers : List Container) :
    groupContainers (shownMembers (groupContainers containers)) = groupContainers containers := by
  apply groupContainers_eq_of_ties (flatMap_members_groupContainers containers)
  intro container hmem
  exact filter_tied_shownMembers ((flatMap_members_groupContainers containers).mem_iff.mp hmem)

end Grouping

end ContainerDesk
