import ContainerDesk.Proofs.Grouping.Snapshot

/-!
# One family at a time

What becomes of a family depends on the family alone.  Whole families can be taken out
of a snapshot, and the groups of the others stay as they are and in their order.

So one more container that has a label only touches the group of its family.  It joins
that group, and the key stays or moves to a cut of it, since a longer family has less in
common; where there is no such group, the container opens one under its label.
-/

namespace ContainerDesk

theorem distinct_filter {α : Type} [DecidableEq α] (xs : List α) (p : α → Bool) :
    (distinct xs).filter p = distinct (xs.filter p) := by
  induction xs with
  | nil => rfl
  | cons x rest ih =>
      rw [distinct, List.filter_cons, List.filter_cons, List.filter_comm, ih]
      cases hx : p x with
      | true => rw [if_pos rfl, if_pos rfl, distinct]
      | false =>
          rw [if_neg Bool.false_ne_true, if_neg Bool.false_ne_true]
          apply List.filter_eq_self.mpr
          intro y hy
          have hy : p y = true := (List.mem_filter.mp (mem_distinct.mp hy)).2
          have hyx : y ≠ x := fun h => Bool.false_ne_true (hx.symm.trans (h ▸ hy))
          exact decide_eq_true hyx

namespace Grouping

/-!
# Taking families out
-/

section Families

variable (containers : List Container) (p : Text → Bool)

/-- The containers whose labels have first segments of a kind; those without a label have none. -/
def selection : List Container :=
  containers.filter fun container => p (firstSegment container.label)

theorem family_selection {segment : Text} (h : p segment = true) :
    family (selection containers p) segment = family containers segment := by
  unfold family selection
  rw [List.filter_filter]
  apply List.filter_congr
  intro container _
  rw [Bool.eq_iff_iff, Bool.and_eq_true, decide_eq_true_eq]
  constructor
  · exact And.left
  · intro hmember
    exact ⟨hmember, hmember.2 ▸ h⟩

variable {containers p}

theorem mem_selection {container : Container} :
    container ∈ selection containers p ↔
      container ∈ containers ∧ p (firstSegment container.label) = true :=
  List.mem_filter

/-- A key depends on the family alone. -/
theorem keyIn_selection {container : Container} (h : container ∈ selection containers p) :
    keyIn (selection containers p) container = keyIn containers container := by
  by_cases hlabel : container.label = []
  · rw [keyIn_of_label_eq_nil _ hlabel, keyIn_of_label_eq_nil _ hlabel]
  · rcases mem_selection.mp h with ⟨hmem, hp⟩
    have hkey := isLongestShared_keyIn h hlabel
    rw [family_selection containers p hp] at hkey
    exact hkey.eq (isLongestShared_keyIn hmem hlabel)

variable (containers p)

theorem keyedIn_selection :
    keyedIn (selection containers p) =
      (keyedIn containers).filter fun entry => p (firstSegment entry.1.label) := by
  unfold keyedIn
  rw [List.filter_map]
  apply List.map_congr_left
  intro container h
  rw [keyIn_selection h]

theorem labelledKeys_selection :
    labelledKeys (keyedIn (selection containers p)) =
      (labelledKeys (keyedIn containers)).filter fun key => p (firstSegment key) := by
  have hlabelled : labelled (keyedIn (selection containers p)) =
      (labelled (keyedIn containers)).filter fun entry => p (firstSegment entry.2) := by
    unfold labelled
    rw [keyedIn_selection, List.filter_comm]
    apply List.filter_congr
    rintro ⟨container, key⟩ hentry
    rcases List.mem_filter.mp hentry with ⟨hkeyed, hlabel⟩
    rcases mem_keyedIn.mp hkeyed with ⟨hmem, rfl⟩
    have hlabel : container.label ≠ [] := by simpa using hlabel
    rw [firstSegment_of_mem_candidatesOf (keyIn_mem_candidatesOf hmem hlabel)]
  rw [labelledKeys, labelledKeys, distinct_filter, hlabelled, List.filter_map]
  rfl

theorem unsortedGroups_selection :
    unsortedGroups (keyedIn (selection containers p)) =
      (unsortedGroups (keyedIn containers)).filter fun group => p (firstSegment group.key) := by
  unfold unsortedGroups
  rw [List.filter_append, List.filter_map, List.filter_map, labelledKeys_selection,
    orphans_keyedIn, orphans_keyedIn, selection, List.filter_comm]
  congr 1
  · apply List.map_congr_left
    intro key hkey
    have hkey : key ∈ labelledKeys (keyedIn (selection containers p)) := by
      rw [labelledKeys_selection]
      exact hkey
    rcases mem_labelledKeys_keyedIn.mp hkey with ⟨container, h, hlabel, rfl⟩
    rcases mem_selection.mp h with ⟨hmem, hp⟩
    show Group.gather _ (membersUnder (keyedIn (selection containers p)) _) = _
    rw [membersUnder_keyIn h hlabel, family_selection containers p hp, keyIn_selection h,
      membersUnder_keyIn hmem hlabel]
  · congr 1
    apply List.filter_congr
    intro container h
    rw [List.isEmpty_iff.mp (List.mem_filter.mp h).2]
    rfl

/-- Whole families can be taken out: their groups go, and the others stay in their order. -/
theorem groupContainers_selection :
    groupContainers (selection containers p) =
      (groupContainers containers).filter fun group => p (firstSegment group.key) := by
  rw [groupContainers_eq, groupContainers_eq, sortedGroups, sortedGroups,
    unsortedGroups_selection, mergeSort_filter Group.isOrder_groupOrder]

end Families

/-!
# A family alone
-/

theorem family_eq_self {members : List Container} {segment : Text}
    (h : ∀ member ∈ members, member.label ≠ [] ∧ firstSegment member.label = segment) :
    family members segment = members := by
  apply List.filter_eq_self.mpr
  intro member hmember
  exact decide_eq_true (h member hmember)

theorem groupContainers_family {members : List Container} {segment : Text}
    (h : ∀ member ∈ members, member.label ≠ [] ∧ firstSegment member.label = segment)
    {first : Container} (hfirst : first ∈ members) :
    groupContainers members = [Group.gather (keyIn members first) members] := by
  have hgroup : ∀ group ∈ groupContainers members,
      group = Group.gather (keyIn members first) members := by
    intro group hgroup
    rcases List.exists_mem_of_ne_nil group.members (members_ne_nil hgroup) with ⟨member, hmember⟩
    have hmem := mem_of_mem_group hgroup hmember
    have hsegment := (h member hmem).2.trans (h first hfirst).2.symm
    rw [eq_gather_of_mem hgroup hmember (h member hmem).1, hsegment, (h first hfirst).2,
      family_eq_self h,
      (keyIn_eq_keyIn_iff hmem hfirst (h member hmem).1 (h first hfirst).1).mpr hsegment]
  have hkey : keyIn members first ≠ [] := keyIn_ne_nil hfirst (h first hfirst).1
  have hperm := flatMap_members_groupContainers members
  have hpairwise := pairwise_key_groupContainers members
  cases hgroups : groupContainers members with
  | nil =>
      rw [hgroups] at hperm
      exact absurd (hperm.nil_eq ▸ hfirst) List.not_mem_nil
  | cons group rest =>
      rw [hgroups] at hgroup hpairwise
      cases rest with
      | nil => rw [hgroup group List.mem_cons_self]
      | cons other rest =>
          -- Both groups would have the one key, which is not empty.
          have hsame := List.rel_of_pairwise_cons hpairwise List.mem_cons_self
          rw [hgroup group List.mem_cons_self,
            hgroup other (List.mem_cons_of_mem _ List.mem_cons_self)] at hsame
          exact absurd (hsame rfl) hkey

/-- What a longer family shares is shared by the shorter one too, so its key is a candidate of the
key of that one. -/
theorem isCandidate_of_isLongestShared {members more : List Container} {key other : Text}
    {first : Container} (hfirst : first ∈ members) (hmore : ∀ member ∈ members, member ∈ more)
    (hkey : IsLongestShared members key) (hother : IsLongestShared more other) :
    IsCandidate key other := by
  have hshared : ∀ member ∈ members, other ∈ candidatesOf member :=
    fun member hmember => hother.shared member (hmore member hmember)
  have hle : other.length ≤ key.length := by
    rcases Decidable.em (other = key) with h | h
    · exact Nat.le_of_eq (congrArg List.length h)
    · exact Nat.le_of_lt (hkey.longest other hshared h)
  exact IsCandidate.of_length_le (mem_candidatesOf.mp (hshared first hfirst)).2
    (mem_candidatesOf.mp (hkey.shared first hfirst)).2 hle

/-!
# One more container
-/

/-- Do the labels of a group's members start with other segments? -/
def IsApart (segment : Text) (group : Group) : Prop :=
  ∀ member ∈ group.members, ¬ IsFirstSegment member.label segment

instance (segment : Text) (group : Group) : Decidable (IsApart segment group) := by
  unfold IsApart
  infer_instance

theorem firstSegment_key {containers : List Container} {group : Group} {member : Container}
    (hgroup : group ∈ groupContainers containers) (hmember : member ∈ group.members) :
    firstSegment group.key = firstSegment member.label := by
  by_cases hlabel : member.label = []
  · rw [eq_gather_nil_of_mem hgroup hmember hlabel, hlabel]
    rfl
  · rw [eq_gather_of_mem hgroup hmember hlabel]
    exact firstSegment_of_mem_candidatesOf
      (keyIn_mem_candidatesOf (mem_of_mem_group hgroup hmember) hlabel)

theorem isApart_iff {containers : List Container} {group : Group} {segment : Text}
    (hgroup : group ∈ groupContainers containers) :
    IsApart segment group ↔ firstSegment group.key ≠ segment := by
  rcases List.exists_mem_of_ne_nil group.members (members_ne_nil hgroup) with ⟨first, hfirst⟩
  constructor
  · intro h hkey
    apply h first hfirst
    rw [← eq_firstSegment_iff, ← firstSegment_key hgroup hfirst, hkey]
  · intro h member hmember hsegment
    apply h
    rw [firstSegment_key hgroup hmember, eq_firstSegment_iff.mpr hsegment]

theorem filter_isApart (containers : List Container) (segment : Text) :
    (groupContainers containers).filter (fun group => IsApart segment group) =
      groupContainers (selection containers fun other => decide (other ≠ segment)) := by
  rw [groupContainers_selection]
  apply List.filter_congr
  intro group hgroup
  rw [decide_eq_decide]
  exact isApart_iff hgroup

theorem filter_not_isApart (containers : List Container) {segment : Text} (hne : segment ≠ []) :
    (groupContainers containers).filter (fun group => ¬ IsApart segment group) =
      groupContainers (family containers segment) := by
  have hfamily : family containers segment =
      selection containers fun other => decide (other = segment) := by
    apply List.filter_congr
    intro container _
    rw [decide_eq_decide]
    constructor
    · exact And.right
    · rintro rfl
      exact ⟨fun hlabel => hne (by rw [hlabel]; rfl), rfl⟩
  rw [hfamily, groupContainers_selection]
  apply List.filter_congr
  intro group hgroup
  rw [decide_eq_decide, isApart_iff hgroup, Decidable.not_not]

section Added

variable (front back : List Container) (added : Container)

theorem selection_insert :
    selection (front ++ [added] ++ back)
        (fun other => decide (other ≠ firstSegment added.label)) =
      selection (front ++ back) fun other => decide (other ≠ firstSegment added.label) := by
  simp [selection]

theorem family_insert_perm (hlabel : added.label ≠ []) :
    (family (front ++ [added] ++ back) (firstSegment added.label)).Perm
      (added :: family (front ++ back) (firstSegment added.label)) := by
  have hadded : family [added] (firstSegment added.label) = [added] := by
    apply family_eq_self
    intro member hmember
    rw [List.mem_singleton.mp hmember]
    exact ⟨hlabel, rfl⟩
  have hmiddle : (front ++ [added] ++ back).Perm ([added] ++ (front ++ back)) := by
    rw [List.append_assoc, List.singleton_append]
    exact List.perm_middle
  apply (hmiddle.filter _).trans
  rw [List.filter_append]
  unfold family at hadded
  rw [hadded]
  exact List.Perm.refl _

end Added

theorem groupContainers_nil : groupContainers [] = [] := by
  apply List.eq_nil_iff_forall_not_mem.mpr
  intro group hgroup
  rcases List.exists_mem_of_ne_nil group.members (members_ne_nil hgroup) with ⟨member, hmember⟩
  exact absurd (mem_of_mem_group hgroup hmember) List.not_mem_nil

/-- One more container joins the group of its family, or opens it. -/
theorem groupContainers_join {members more : List Container} {added : Container} {segment : Text}
    (hmore : ∀ member ∈ more, member.label ≠ [] ∧ firstSegment member.label = segment)
    (hperm : more.Perm (added :: members)) :
    (∃ old new, groupContainers members = [old] ∧ groupContainers more = [new] ∧
        (∀ member ∈ old.members, IsFirstSegment member.label segment) ∧
        new.members.Perm (added :: old.members) ∧ IsCandidate old.key new.key) ∨
      (groupContainers members = [] ∧
        ∃ new, groupContainers more = [new] ∧ new.members = [added] ∧ new.key = added.label) := by
  have hadded : added ∈ more := hperm.mem_iff.mpr List.mem_cons_self
  have hnew := groupContainers_family hmore hadded
  have hnewKey := isLongestShared_keyIn hadded (hmore added hadded).1
  rw [(hmore added hadded).2, family_eq_self hmore] at hnewKey
  cases members with
  | nil =>
      have hsingle : more = [added] := List.perm_singleton.mp hperm
      rw [hsingle] at hnew hnewKey ⊢
      exact Or.inr ⟨groupContainers_nil, _, hnew, Group.gather_singleton_members _ added,
        hnewKey.eq_label⟩
  | cons first rest =>
      have hmembers : ∀ member ∈ first :: rest, member ∈ more :=
        fun member hmember => hperm.mem_iff.mpr (List.mem_cons_of_mem added hmember)
      have hall : ∀ member ∈ first :: rest, member.label ≠ [] ∧
          firstSegment member.label = segment :=
        fun member hmember => hmore member (hmembers member hmember)
      have hfirst : first ∈ first :: rest := List.mem_cons_self
      have holdKey := isLongestShared_keyIn hfirst (hall first hfirst).1
      rw [(hall first hfirst).2, family_eq_self hall] at holdKey
      refine Or.inl ⟨_, _, groupContainers_family hall hfirst, hnew, ?_, ?_, ?_⟩
      · intro member hmember
        exact eq_firstSegment_iff.mp (hall member (Group.mem_gather.mp hmember)).2.symm
      · exact (Group.gather_members_perm _ _).trans
          (hperm.trans ((Group.gather_members_perm _ _).symm.cons added))
      · exact isCandidate_of_isLongestShared hfirst hmembers holdKey hnewKey

/-- One more container that has a label, anywhere in a snapshot: the groups whose labels start with
other segments, and those of containers without a label, stay as they are and in their order.  A
group with its first segment gets it as one more member, under the same key or a cut of it; where
there is no such group, it is alone under its label. -/
theorem groupContainers_insert (front back : List Container) {added : Container} {segment : Text}
    (hlabel : added.label ≠ []) (hsegment : IsFirstSegment added.label segment) :
    (groupContainers (front ++ [added] ++ back)).filter (fun group => IsApart segment group) =
      (groupContainers (front ++ back)).filter (fun group => IsApart segment group) ∧
    ((∃ old new,
        (groupContainers (front ++ back)).filter (fun group => ¬ IsApart segment group) = [old] ∧
        (groupContainers (front ++ [added] ++ back)).filter
          (fun group => ¬ IsApart segment group) = [new] ∧
        (∀ member ∈ old.members, IsFirstSegment member.label segment) ∧
        new.members.Perm (added :: old.members) ∧
        (new.key = old.key ∨ IsCut old.key new.key)) ∨
      ((groupContainers (front ++ back)).filter (fun group => ¬ IsApart segment group) = [] ∧
        ∃ new, (groupContainers (front ++ [added] ++ back)).filter
            (fun group => ¬ IsApart segment group) = [new] ∧
          new.members = [added] ∧ new.key = added.label)) := by
  obtain rfl := eq_firstSegment_iff.mpr hsegment
  have hne : firstSegment added.label ≠ [] := (isCandidate_firstSegment hlabel).ne_nil hlabel
  constructor
  · rw [filter_isApart, filter_isApart, selection_insert]
  · rw [filter_not_isApart _ hne, filter_not_isApart _ hne]
    apply groupContainers_join _ (family_insert_perm front back added hlabel)
    intro member hmember
    exact (mem_family.mp hmember).2

theorem key_eq_of_isFirstSegment {containers : List Container} {segment key : Text}
    (hne : segment ≠ [])
    (hkeys : ∀ container ∈ containers, IsFirstSegment container.label segment →
      keyIn containers container = key)
    {group : Group} (hgroup : group ∈ groupContainers containers)
    (hapart : ¬ IsApart segment group) : group.key = key := by
  unfold IsApart at hapart
  push Not at hapart
  rcases hapart with ⟨member, hmember, hsegment⟩
  have hlabel : member.label ≠ [] := by
    intro hempty
    rw [hempty] at hsegment
    exact hne (isFirstSegment_nil_iff.mp hsegment)
  rw [eq_gather_of_mem hgroup hmember hlabel, Group.gather_key]
  exact hkeys member (mem_of_mem_group hgroup hmember) hsegment

def namedContainer (name state : String) : Container :=
  ⟨Text.of "0", Text.of name, Text.of state, [], [], []⟩

/-- A family that had a longer segment in common before a third container joins it. -/
theorem groupContainers_insert_shorter :
    let front := [namedContainer "web-shop-1" "running", namedContainer "" "exited"]
    let back := [namedContainer "api_2" "running", namedContainer "web-shop-2" "exited"]
    let added := namedContainer "web-blog-1" "exited"
    let segment := Text.of "web"
    (added.label ≠ [] ∧ IsFirstSegment added.label segment) ∧
    ∃ old new,
      (groupContainers (front ++ back)).filter (fun group => ¬ IsApart segment group) = [old] ∧
      (groupContainers (front ++ [added] ++ back)).filter
        (fun group => ¬ IsApart segment group) = [new] ∧
      new.members.Perm (added :: old.members) ∧
      old.key = Text.of "web-shop" ∧ new.key = Text.of "web" := by
  intro front back added segment
  have hlabel : added.label ≠ [] := by decide
  have hsegment : IsFirstSegment added.label segment := by decide
  have hmem : ∀ {containers : List Container} {group : Group},
      (groupContainers containers).filter (fun group => ¬ IsApart segment group) = [group] →
      group ∈ groupContainers containers ∧ ¬ IsApart segment group := by
    intro containers group h
    have hgroup := List.mem_filter.mp (h ▸ List.mem_singleton_self group)
    exact ⟨hgroup.1, of_decide_eq_true hgroup.2⟩
  refine ⟨⟨hlabel, hsegment⟩, ?_⟩
  rcases (groupContainers_insert front back hlabel hsegment).2 with
    ⟨old, new, hold, hnew, _, hmembers, _⟩ | ⟨hnone, _⟩
  · refine ⟨old, new, hold, hnew, hmembers, ?_, ?_⟩
    · exact key_eq_of_isFirstSegment (by decide) (by decide +kernel) (hmem hold).1 (hmem hold).2
    · exact key_eq_of_isFirstSegment (by decide) (by decide +kernel) (hmem hnew).1 (hmem hnew).2
  · rw [filter_not_isApart _ (by decide)] at hnone
    have hperm := flatMap_members_groupContainers (family (front ++ back) segment)
    rw [hnone] at hperm
    exact absurd hperm.nil_eq (by decide)

end Grouping

end ContainerDesk
