import ContainerDesk.Proofs.Grouping.Partition
import ContainerDesk.Proofs.Grouping.Sharing

/-!
# The groups of a snapshot

The groups of a snapshot are its families, each under the longest candidate that all of
the family share, and its containers without a label, each alone under an empty key.
No two families have one key.
-/

namespace ContainerDesk

namespace Grouping

def keyedIn (containers : List Container) : List (Container × Text) :=
  containers.map fun container => (container, keyIn containers container)

theorem groupContainers_eq (containers : List Container) :
    groupContainers containers = sortedGroups (keyedIn containers) := by
  have hzip : ∀ (f : Container → Text) (cs : List Container),
      cs.zip (cs.map f) = cs.map fun c => (c, f c) := by
    intro f cs
    induction cs with
    | nil => rfl
    | cons c rest ih => simp [ih]
  have hkeyed : containers.zip (keysOf containers) = keyedIn containers :=
    hzip (keyIn containers) containers
  simp only [groupContainers, buildGroups_eq (length_keysOf containers), hkeyed]
  rfl

theorem mem_keyedIn {containers : List Container} {container : Container} {key : Text} :
    (container, key) ∈ keyedIn containers ↔
      container ∈ containers ∧ key = keyIn containers container := by
  simp only [keyedIn, List.mem_map, Prod.mk.injEq]
  constructor
  · rintro ⟨other, hmem, rfl, rfl⟩
    exact ⟨hmem, rfl⟩
  · rintro ⟨hmem, rfl⟩
    exact ⟨container, hmem, rfl, rfl⟩

theorem map_fst_keyedIn (containers : List Container) :
    (keyedIn containers).map (·.1) = containers := by
  simp [keyedIn, Function.comp_def]

theorem mem_labelledKeys_keyedIn {containers : List Container} {key : Text} :
    key ∈ labelledKeys (keyedIn containers) ↔
      ∃ container ∈ containers, container.label ≠ [] ∧ key = keyIn containers container := by
  simp only [mem_labelledKeys, mem_keyedIn]
  constructor
  · rintro ⟨container, ⟨hmem, hkey⟩, hlabel⟩
    exact ⟨container, hmem, hlabel, hkey⟩
  · rintro ⟨container, hmem, hlabel, hkey⟩
    exact ⟨container, ⟨hmem, hkey⟩, hlabel⟩

theorem orphans_keyedIn (containers : List Container) :
    orphans (keyedIn containers) =
      containers.filter fun container => container.label.isEmpty := by
  rw [orphans, map_fst_keyedIn]

theorem membersUnder_keyIn {containers : List Container} {container : Container}
    (hmem : container ∈ containers) (hlabel : container.label ≠ []) :
    membersUnder (keyedIn containers) (keyIn containers container) =
      family containers (firstSegment container.label) := by
  have hfilter : membersUnder (keyedIn containers) (keyIn containers container) =
      containers.filter fun other =>
        decide (keyIn containers other = keyIn containers container) && !other.label.isEmpty := by
    simp [membersUnder, labelled, keyedIn, List.filter_map, Function.comp_def]
  rw [hfilter, family]
  apply List.filter_congr
  intro other hother
  by_cases hempty : other.label = []
  · simp [hempty]
  · have hiff := keyIn_eq_keyIn_iff hother hmem hempty hlabel
    simp [hempty, hiff]

/-- A group is that of a family, or it is that of a single container without a label. -/
theorem mem_groupContainers {containers : List Container} {group : Group} :
    group ∈ groupContainers containers ↔
      (∃ container ∈ containers, container.label ≠ [] ∧
        group = Group.gather (keyIn containers container)
          (family containers (firstSegment container.label))) ∨
        ∃ container ∈ containers, container.label = [] ∧
          group = Group.gather [] [container] := by
  rw [groupContainers_eq, mem_sortedGroups, orphans_keyedIn]
  constructor
  · rintro (⟨key, hkey, rfl⟩ | ⟨container, horphan, rfl⟩)
    · rcases mem_labelledKeys_keyedIn.mp hkey with ⟨container, hmem, hlabel, rfl⟩
      exact Or.inl ⟨container, hmem, hlabel, by rw [membersUnder_keyIn hmem hlabel]⟩
    · have := List.mem_filter.mp horphan
      exact Or.inr ⟨container, this.1, List.isEmpty_iff.mp this.2, rfl⟩
  · rintro (⟨container, hmem, hlabel, rfl⟩ | ⟨container, hmem, hlabel, rfl⟩)
    · refine Or.inl ⟨keyIn containers container, ?_, ?_⟩
      · exact mem_labelledKeys_keyedIn.mpr ⟨container, hmem, hlabel, rfl⟩
      · rw [membersUnder_keyIn hmem hlabel]
    · exact Or.inr ⟨container, List.mem_filter.mpr ⟨hmem, List.isEmpty_iff.mpr hlabel⟩, rfl⟩

theorem flatMap_members_groupContainers (containers : List Container) :
    ((groupContainers containers).flatMap Group.members).Perm containers := by
  have := flatMap_members_sortedGroups (keyedIn containers)
  rwa [map_fst_keyedIn, ← groupContainers_eq] at this

theorem mem_of_mem_group {containers : List Container} {group : Group} {member : Container}
    (hgroup : group ∈ groupContainers containers) (hmember : member ∈ group.members) :
    member ∈ containers :=
  (flatMap_members_groupContainers containers).mem_iff.mp
    (List.mem_flatMap.mpr ⟨group, hgroup, hmember⟩)

theorem eq_gather_of_mem {containers : List Container} {group : Group} {member : Container}
    (hgroup : group ∈ groupContainers containers) (hmember : member ∈ group.members)
    (hlabel : member.label ≠ []) :
    group = Group.gather (keyIn containers member)
      (family containers (firstSegment member.label)) := by
  have hmem := mem_of_mem_group hgroup hmember
  rcases mem_groupContainers.mp hgroup with
    ⟨container, hcontainer, hcontainerLabel, rfl⟩ | ⟨container, _, hempty, rfl⟩
  · rw [Group.mem_gather, mem_family] at hmember
    have hkey := (keyIn_eq_keyIn_iff hmem hcontainer hlabel hcontainerLabel).mpr hmember.2.2
    rw [hkey, hmember.2.2]
  · rw [Group.mem_gather, List.mem_singleton] at hmember
    rw [hmember] at hlabel
    exact absurd hempty hlabel

theorem eq_gather_nil_of_mem {containers : List Container} {group : Group} {member : Container}
    (hgroup : group ∈ groupContainers containers) (hmember : member ∈ group.members)
    (hlabel : member.label = []) : group = Group.gather [] [member] := by
  rcases mem_groupContainers.mp hgroup with
    ⟨container, _, _, rfl⟩ | ⟨container, _, _, rfl⟩
  · rw [Group.mem_gather, mem_family] at hmember
    exact absurd hlabel hmember.2.1
  · rw [Group.mem_gather, List.mem_singleton] at hmember
    rw [hmember]

theorem members_ne_nil {containers : List Container} {group : Group}
    (hgroup : group ∈ groupContainers containers) : group.members ≠ [] := by
  rcases mem_groupContainers.mp hgroup with
    ⟨container, hmem, hlabel, rfl⟩ | ⟨container, _, _, rfl⟩
  · apply List.ne_nil_of_mem (a := container)
    exact Group.mem_gather.mpr (mem_family.mpr ⟨hmem, hlabel, rfl⟩)
  · simp

/-- Two groups at different places of the result share a key only when it is empty. -/
theorem pairwise_key_groupContainers (containers : List Container) :
    (groupContainers containers).Pairwise fun group other =>
      group.key = other.key → group.key = [] := by
  have hsymm : ∀ {group other : Group}, (group.key = other.key → group.key = []) →
      other.key = group.key → other.key = [] := by
    intro group other h hkey
    rw [hkey]
    exact h hkey.symm
  rw [groupContainers_eq, (sortedGroups_perm (keyedIn containers)).pairwise_iff hsymm,
    unsortedGroups, List.pairwise_append]
  refine ⟨?_, ?_, ?_⟩
  · apply List.pairwise_map.mpr
    apply (nodup_labelledKeys (keyedIn containers)).imp
    intro key other hne hkey
    exact absurd hkey hne
  · apply List.pairwise_map.mpr
    apply List.pairwise_of_forall
    intro container other _
    rfl
  · intro group _ other hother hkey
    rcases List.mem_map.mp hother with ⟨container, _, rfl⟩
    exact hkey

theorem eq_of_key_eq {containers : List Container} {group other : Group}
    (hgroup : group ∈ groupContainers containers) (hother : other ∈ groupContainers containers)
    (hne : group.key ≠ []) (h : group.key = other.key) : group = other := by
  rcases mem_groupContainers.mp hgroup with ⟨first, hfirst, hfirstLabel, rfl⟩ | ⟨_, _, _, rfl⟩
  · rcases mem_groupContainers.mp hother with
      ⟨second, hsecond, hsecondLabel, rfl⟩ | ⟨_, _, _, rfl⟩
    · rw [Group.gather_key, Group.gather_key] at h
      rw [h, (keyIn_eq_keyIn_iff hfirst hsecond hfirstLabel hsecondLabel).mp h]
    · exact absurd h hne
  · exact absurd rfl hne

theorem isLongestShared_key {containers : List Container} {group : Group} {member : Container}
    (hgroup : group ∈ groupContainers containers) (hmember : member ∈ group.members)
    (hlabel : member.label ≠ []) : IsLongestShared group.members group.key := by
  have hmem := mem_of_mem_group hgroup hmember
  have hfamily := isLongestShared_keyIn hmem hlabel
  rw [eq_gather_of_mem hgroup hmember hlabel]
  constructor
  · intro other hother
    exact hfamily.shared other (Group.mem_gather.mp hother)
  · intro other hother
    apply hfamily.longest other
    intro relative hrelative
    exact hother relative (Group.mem_gather.mpr hrelative)

theorem key_ne_nil {containers : List Container} {group : Group} {member : Container}
    (hgroup : group ∈ groupContainers containers) (hmember : member ∈ group.members)
    (hlabel : member.label ≠ []) : group.key ≠ [] := by
  rw [eq_gather_of_mem hgroup hmember hlabel]
  exact keyIn_ne_nil (mem_of_mem_group hgroup hmember) hlabel

theorem IsLongestShared.eq_label {key : Text} {member : Container}
    (h : IsLongestShared [member] key) : key = member.label := by
  have hlabel := (mem_candidatesOf.mp (h.shared member (by simp))).1
  exact h.eq (isLongestShared_label hlabel)

theorem key_eq_nil_iff {containers : List Container} {group : Group}
    (hgroup : group ∈ groupContainers containers) :
    group.key = [] ↔ ∃ member, group.members = [member] ∧ member.label = [] := by
  constructor
  · intro hkey
    cases hmembers : group.members with
    | nil => exact absurd hmembers (members_ne_nil hgroup)
    | cons member rest =>
        have hmember : member ∈ group.members := by simp [hmembers]
        by_cases hlabel : member.label = []
        · refine ⟨member, ?_, hlabel⟩
          rw [← hmembers, eq_gather_nil_of_mem hgroup hmember hlabel]
          exact Group.gather_singleton_members [] member
        · exact absurd hkey (key_ne_nil hgroup hmember hlabel)
  · rintro ⟨member, hmembers, hlabel⟩
    rw [eq_gather_nil_of_mem hgroup (by simp [hmembers]) hlabel]
    rfl

end Grouping

end ContainerDesk
