import ContainerDesk.Grouping.Snapshot
import ContainerDesk.Proofs.Grouping.Allotment
import ContainerDesk.Proofs.Grouping.Partition

/-!
# Groups from given keys

Whatever the keys are, each container goes into one group, as often as it comes: those
that have a label with those of their key, those without a label alone.  Only a wrong
number of keys is a fault, and the keys of a snapshot are never too many or too few.
-/

namespace ContainerDesk

namespace Grouping

/-- Do the numbers tell in which of the groups the containers are, and do the keys decide it? -/
structure IsKeyedAllotment (containers : List Container) (keys : List Text) (groups : List Group)
    (numbers : List Nat) : Prop where
  allotment : IsAllotment containers groups numbers
  together : ∀ (i j : Nat) (hi : i < containers.length) (hj : j < containers.length),
    containers[i].label ≠ [] → containers[j].label ≠ [] →
      (numbers[i]? = numbers[j]? ↔ keys[i]? = keys[j]?)
  alone : ∀ (i : Nat) (hi : i < containers.length), containers[i].label = [] →
    ∃ number group, numbers[i]? = some number ∧ groups[number]? = some group ∧
      group.key = [] ∧ group.members = [containers[i]]

/-!
# Batches in the order of the groups
-/

theorem exists_batches (keyed : List (Container × Text)) :
    ∃ sorted : List Batch, sorted.Perm (batches keyed) ∧
      sorted.map Batch.group = sortedGroups keyed := by
  apply exists_perm_map_eq
  rw [map_group_batches]
  exact (sortedGroups_perm keyed).symm

section Sorted

variable {keyed : List (Container × Text)} {sorted : List Batch} {numbers : List Nat}
  (hsorted : sorted.Perm (batches keyed))
  (hnumbers : Allots keyed (sorted.map Batch.entries) numbers)

include hsorted

theorem exists_allots_batches : ∃ numbers, Allots keyed (sorted.map Batch.entries) numbers := by
  apply exists_allots
  rw [← List.flatMap_def]
  exact (hsorted.flatMap_right Batch.entries).trans (flatMap_entries_batches keyed)

include hnumbers

theorem exists_batch {i : Nat} {entry : Container × Text} (hi : keyed[i]? = some entry) :
    ∃ number batch, numbers[i]? = some number ∧ sorted[number]? = some batch ∧
      batch ∈ batches keyed ∧ entry ∈ batch.entries := by
  rcases hnumbers.exists_number hi with ⟨number, hnumber, hbound⟩
  have hmem := hnumbers.mem hi hnumber hbound
  rw [List.length_map] at hbound
  rw [List.getElem_map] at hmem
  have hbatch := List.getElem?_eq_getElem hbound
  exact ⟨number, sorted[number], hnumber, hbatch,
    hsorted.mem_iff.mp (List.mem_of_getElem? hbatch), hmem⟩

theorem number_eq_iff {i j : Nat} {entry other : Container × Text}
    (hi : keyed[i]? = some entry) (hj : keyed[j]? = some other) (hlabel : entry.1.label ≠ [])
    (hother : other.1.label ≠ []) : numbers[i]? = numbers[j]? ↔ entry.2 = other.2 := by
  rcases exists_batch hsorted hnumbers hi with ⟨m, batch, hm, hbatchAt, hbatch, hentry⟩
  rcases exists_batch hsorted hnumbers hj with ⟨n, batch', hn, hbatchAt', hbatch', hentry'⟩
  constructor
  · intro hsame
    have hmn : m = n := Option.some.inj (hm.symm.trans (hsame.trans hn))
    have hbatches : batch = batch' := by
      apply Option.some.inj
      rw [← hbatchAt, hmn, hbatchAt']
    have hunder := eq_under_of_mem hbatch hentry hlabel
    rw [hbatches, eq_under_of_mem hbatch' hentry' hother] at hunder
    exact (congrArg Batch.key hunder).symm
  · intro hkey
    have hpairwise : sorted.Pairwise fun batch other =>
        ∀ entry ∈ batch.entries, ∀ entry' ∈ other.entries, entry.1.label ≠ [] →
          entry'.1.label ≠ [] → entry.2 ≠ entry'.2 := by
      apply (hsorted.pairwise_iff ?_).mpr (pairwise_batches keyed)
      intro x y h entry hentry entry' hentry' hlabel hlabel' hsame
      exact h entry' hentry' entry hentry hlabel' hlabel hsame.symm
    rcases List.getElem?_eq_some_iff.mp hbatchAt with ⟨hmlt, rfl⟩
    rcases List.getElem?_eq_some_iff.mp hbatchAt' with ⟨hnlt, rfl⟩
    rw [List.pairwise_iff_getElem] at hpairwise
    rcases Nat.lt_trichotomy m n with hlt | heq | hgt
    · exact absurd hkey
        (hpairwise m n hmlt hnlt hlt entry hentry other hentry' hlabel hother)
    · rw [hm, hn, heq]
    · exact absurd hkey.symm
        (hpairwise n m hnlt hmlt hgt other hentry' entry hentry hother hlabel)

end Sorted

/-!
# Building groups
-/

theorem running_gather (key : Text) (members : List Container) :
    (Group.gather key members).running =
      (Group.gather key members).members.countP Container.isRunning := rfl

theorem running_add_stopped_gather (key : Text) (members : List Container) :
    (Group.gather key members).running + (Group.gather key members).stopped =
      (Group.gather key members).size :=
  Nat.add_sub_of_le List.countP_le_length

theorem exists_isKeyedAllotment {containers : List Container} {keys : List Text}
    (hlength : containers.length = keys.length) :
    ∃ numbers, IsKeyedAllotment containers keys (sortedGroups (containers.zip keys)) numbers := by
  rcases exists_batches (containers.zip keys) with ⟨sorted, hsorted, hgroups⟩
  rcases exists_allots_batches hsorted with ⟨numbers, hnumbers⟩
  have hentry : ∀ (i : Nat) (hi : i < containers.length), ∃ key, keys[i]? = some key ∧
      (containers.zip keys)[i]? = some (containers[i], key) := by
    intro i hi
    have hkey := List.getElem?_eq_getElem (hlength ▸ hi : i < keys.length)
    exact ⟨_, hkey, List.getElem?_zip_eq_some.mpr ⟨List.getElem?_eq_getElem hi, hkey⟩⟩
  refine ⟨numbers, ?_, ?_, ?_⟩
  · rw [isAllotment_iff, ← hgroups, List.map_map]
    have hfst : (containers.zip keys).map (·.1) = containers :=
      List.map_fst_zip (Nat.le_of_eq hlength)
    rw [← hfst]
    apply hnumbers.map_perm
    intro batch
    exact Group.gather_members_perm batch.key (batch.entries.map (·.1))
  · intro i j hi hj hilabel hjlabel
    rcases hentry i hi with ⟨key, hkey, hi⟩
    rcases hentry j hj with ⟨other, hother, hj⟩
    rw [number_eq_iff hsorted hnumbers hi hj hilabel hjlabel, hkey, hother, Option.some.injEq]
  · intro i hi hlabel
    rcases hentry i hi with ⟨key, _, hentry⟩
    rcases exists_batch hsorted hnumbers hentry with
      ⟨number, batch, hnumber, hbatchAt, hbatch, hmem⟩
    have hlone := eq_lone_of_mem hbatch hmem hlabel
    refine ⟨number, batch.group, hnumber, ?_, ?_, ?_⟩
    · rw [← hgroups, List.getElem?_map, hbatchAt]
      rfl
    · rw [hlone]
      rfl
    · rw [hlone]
      exact Group.gather_singleton_members [] containers[i]

theorem exists_gather_of_mem {keyed : List (Container × Text)} {group : Group}
    (hgroup : group ∈ sortedGroups keyed) :
    ∃ key members, members ≠ [] ∧ group = Group.gather key members := by
  rcases mem_sortedGroups.mp hgroup with ⟨key, hkey, rfl⟩ | ⟨container, _, rfl⟩
  · rcases mem_labelledKeys.mp hkey with ⟨container, hmem, hlabel⟩
    refine ⟨key, _, ?_, rfl⟩
    exact List.ne_nil_of_mem (mem_membersUnder.mpr ⟨hmem, hlabel⟩)
  · exact ⟨[], [container], List.cons_ne_nil _ _, rfl⟩

/-- Building groups fails exactly where there is not one key for each container.  Otherwise the
groups have all containers, each as often as it comes, and none of them is empty; they count their
members by state; those that have labels are together exactly where their keys are equal, and
those that have none are alone under an empty key.  The keys that a snapshot chooses are one for
each container. -/
theorem buildGroups_partition (containers : List Container) (keys : List Text) :
    (∀ fault, buildGroups containers keys = .error fault ↔
      containers.length ≠ keys.length ∧
        fault = .badValue (Text.of "Expected " ++ numeral containers.length ++
          Text.of " keys, got " ++ numeral keys.length)) ∧
    (containers.length = keys.length → ∃ groups, buildGroups containers keys = .ok groups ∧
      (groups.flatMap Group.members).Perm containers ∧
      (∀ group ∈ groups, group.members ≠ [] ∧
        group.running =
          group.members.countP (fun member => decide (member.state = Text.of "running")) ∧
        group.running + group.stopped = group.size) ∧
      ∃ numbers, IsKeyedAllotment containers keys groups numbers) ∧
    buildGroups containers (keysOf containers) = .ok (groupContainers containers) := by
  refine ⟨?_, ?_, ?_⟩
  · intro fault
    by_cases hlength : containers.length = keys.length
    · simp [buildGroups_eq hlength, hlength]
    · simp [buildGroups, hlength, eq_comm]
  · intro hlength
    refine ⟨_, buildGroups_eq hlength, ?_, ?_, exists_isKeyedAllotment hlength⟩
    · have hmembers := flatMap_members_sortedGroups (containers.zip keys)
      rwa [List.map_fst_zip (Nat.le_of_eq hlength)] at hmembers
    · intro group hgroup
      rcases exists_gather_of_mem hgroup with ⟨key, members, hne, rfl⟩
      refine ⟨?_, running_gather key members, running_add_stopped_gather key members⟩
      intro hnil
      have hperm := Group.gather_members_perm key members
      rw [hnil] at hperm
      exact hne hperm.nil_eq.symm
  · simp only [groupContainers, buildGroups_eq (length_keysOf containers)]
    rfl

end Grouping

end ContainerDesk
