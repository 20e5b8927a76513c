import ContainerDesk.Proofs.Grouping.Allotment
import ContainerDesk.Proofs.Grouping.Snapshot

/-!
# Who is grouped with whom

Two containers of a snapshot come into one group exactly when both have labels and the
labels have one first segment, whatever else the snapshot holds.  The key of a group is
what its members have in common.

Equal containers may stand at several places of a snapshot, so membership is told by an
allotment of the places to the groups.
-/

namespace ContainerDesk

namespace Grouping

theorem firstSegment_eq_of_mem {containers : List Container} {group : Group}
    {first second : Container} (hgroup : group ∈ groupContainers containers)
    (hfirst : first ∈ group.members) (hsecond : second ∈ group.members)
    (hseveral : 2 ≤ group.members.length) :
    first.label ≠ [] ∧ second.label ≠ [] ∧
      firstSegment first.label = firstSegment second.label := by
  have hlabel : first.label ≠ [] := by
    intro hempty
    rw [eq_gather_nil_of_mem hgroup hfirst hempty, Group.gather_singleton_members] at hseveral
    simp at hseveral
  rw [eq_gather_of_mem hgroup hfirst hlabel, Group.mem_gather, mem_family] at hsecond
  exact ⟨hlabel, hsecond.2.1, hsecond.2.2.symm⟩

/-- Containers whose labels have one first segment are members of the same group only. -/
theorem number_eq_of_firstSegment_eq {containers : List Container} {number other : Nat}
    (hnumber : number < (groupContainers containers).length)
    (hother : other < (groupContainers containers).length) {first second : Container}
    (hfirst : first ∈ (groupContainers containers)[number].members)
    (hsecond : second ∈ (groupContainers containers)[other].members)
    (hfirstLabel : first.label ≠ []) (hsecondLabel : second.label ≠ [])
    (hsegment : firstSegment first.label = firstSegment second.label) : number = other := by
  have hgroup := List.getElem_mem hnumber
  have hgroup' := List.getElem_mem hother
  have hkey : (groupContainers containers)[number].key =
      (groupContainers containers)[other].key := by
    rw [eq_gather_of_mem hgroup hfirst hfirstLabel, eq_gather_of_mem hgroup' hsecond hsecondLabel]
    exact (keyIn_eq_keyIn_iff (mem_of_mem_group hgroup hfirst) (mem_of_mem_group hgroup' hsecond)
      hfirstLabel hsecondLabel).mpr hsegment
  have hpairwise := List.pairwise_iff_getElem.mp (pairwise_key_groupContainers containers)
  rcases Nat.lt_trichotomy number other with hlt | heq | hgt
  · exact absurd (hpairwise number other hnumber hother hlt hkey)
      (key_ne_nil hgroup hfirst hfirstLabel)
  · exact heq
  · exact absurd (hpairwise other number hother hnumber hgt hkey.symm)
      (key_ne_nil hgroup' hsecond hsecondLabel)

/-- There is an allotment of a snapshot to its groups, and any allotment puts two places into one
group exactly when the containers there have labels with one first segment. -/
theorem sameGroup_iff (containers : List Container) :
    (∃ numbers, IsAllotment containers (groupContainers containers) numbers) ∧
    ∀ numbers, IsAllotment containers (groupContainers containers) numbers →
      ∀ (i j : Nat) (hi : i < containers.length) (hj : j < containers.length), i ≠ j →
        (numbers[i]? = numbers[j]? ↔
          containers[i].label ≠ [] ∧ containers[j].label ≠ [] ∧
            ∃ segment, IsFirstSegment containers[i].label segment ∧
              IsFirstSegment containers[j].label segment) := by
  refine ⟨exists_isAllotment (flatMap_members_groupContainers containers), ?_⟩
  intro numbers hnumbers i j hi hj hne
  have hinumber := List.getElem?_eq_getElem (hnumbers.lt_length hi)
  have hjnumber := List.getElem?_eq_getElem (hnumbers.lt_length hj)
  have hibound := hnumbers.bounded _ (List.getElem_mem (hnumbers.lt_length hi))
  have hjbound := hnumbers.bounded _ (List.getElem_mem (hnumbers.lt_length hj))
  have himem := hnumbers.mem hi hinumber hibound
  have hjmem := hnumbers.mem hj hjnumber hjbound
  constructor
  · intro hsame
    rw [hinumber] at hsame
    have hseveral := hnumbers.two_le_length hi hj hne hinumber hsame.symm hibound
    have hjmem := hnumbers.mem hj hsame.symm hibound
    rcases firstSegment_eq_of_mem (List.getElem_mem hibound) himem hjmem hseveral with
      ⟨hilabel, hjlabel, hsegment⟩
    refine ⟨hilabel, hjlabel, firstSegment containers[i].label, ?_, ?_⟩
    · exact (isFirstSegment_iff hilabel).mpr rfl
    · exact (isFirstSegment_iff hjlabel).mpr hsegment
  · rintro ⟨hilabel, hjlabel, segment, hisegment, hjsegment⟩
    have hsegment : firstSegment containers[i].label = firstSegment containers[j].label := by
      rw [← (isFirstSegment_iff hilabel).mp hisegment, ← (isFirstSegment_iff hjlabel).mp hjsegment]
    have hnumber := number_eq_of_firstSegment_eq hibound hjbound himem hjmem hilabel hjlabel
      hsegment
    rw [hinumber, hjnumber, hnumber]

/-- The keys of the groups.  A group whose members have labels has the longest candidate that all
of them have as its key, which is not empty and no other such group's; a member alone gives its
label.  An empty key is the key of a container alone whose name and identifier are blank. -/
theorem groupContainers_keys (containers : List Container) :
    (∀ group ∈ groupContainers containers, (∀ member ∈ group.members, member.label ≠ []) →
      IsLongestShared group.members group.key ∧ group.key ≠ [] ∧
        ∀ member, group.members = [member] → group.key = member.label) ∧
    ((groupContainers containers).Pairwise fun group other =>
      (∀ member ∈ group.members, member.label ≠ []) →
        (∀ member ∈ other.members, member.label ≠ []) → group.key ≠ other.key) ∧
    ∀ group ∈ groupContainers containers, group.key = [] ↔
      ∃ member, group.members = [member] ∧ member.name.trim = [] ∧ member.id.trim = [] := by
  refine ⟨?_, ?_, ?_⟩
  · intro group hgroup hlabels
    rcases List.exists_mem_of_ne_nil group.members (members_ne_nil hgroup) with ⟨first, hfirst⟩
    have hlongest := isLongestShared_key hgroup hfirst (hlabels first hfirst)
    refine ⟨hlongest, key_ne_nil hgroup hfirst (hlabels first hfirst), ?_⟩
    intro member hmembers
    rw [hmembers] at hlongest
    exact hlongest.eq_label
  · apply (pairwise_key_groupContainers containers).imp_of_mem
    intro group other hgroup _ hpair hlabels _ hkey
    rcases List.exists_mem_of_ne_nil group.members (members_ne_nil hgroup) with ⟨first, hfirst⟩
    exact key_ne_nil hgroup hfirst (hlabels first hfirst) (hpair hkey)
  · intro group hgroup
    rw [key_eq_nil_iff hgroup]
    simp only [Container.label_eq_nil_iff]

end Grouping

end ContainerDesk
