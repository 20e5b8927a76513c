import ContainerDesk.Grouping.Snapshot
import ContainerDesk.Proofs.Grouping.Frequency
import ContainerDesk.Proofs.Grouping.Segment
import ContainerDesk.Proofs.Grouping.Selection

/-!
# Shared candidates

The index of a snapshot counts, for each text, the containers that have it as a
candidate.  A longer candidate of a container is never shared by more containers than
a shorter one, and the first segment is shared by all containers that start with it.

So the key of a container is the longest of the candidates that all containers with
its first segment share, and two containers have one key exactly when they have one
first segment.
-/

namespace ContainerDesk

namespace Grouping

/-!
# Counting
-/

def shareCount (containers : List Container) (part : Text) : Nat :=
  containers.countP fun container => decide (part ∈ candidatesOf container)

theorem count_indexOf (containers : List Container) (part : Text) :
    (indexOf containers).count part = shareCount containers part := by
  rw [indexOf, Frequency.count_ofCandidates, Frequency.spread, List.countP_map]
  rfl

theorem isEligible_indexOf (containers : List Container) (part : Text) :
    isEligible (indexOf containers) part = true ↔ 2 ≤ shareCount containers part := by
  rw [isEligible, decide_eq_true_eq, count_indexOf, leastShared]
  omega

/-!
# Families

A family is what all containers of a snapshot with one first segment make up.
-/

/-- The containers of a snapshot that have a label with a given first segment. -/
def family (containers : List Container) (segment : Text) : List Container :=
  containers.filter fun container =>
    decide (container.label ≠ [] ∧ firstSegment container.label = segment)

theorem mem_family {containers : List Container} {segment : Text} {container : Container} :
    container ∈ family containers segment ↔
      container ∈ containers ∧ container.label ≠ [] ∧ firstSegment container.label = segment := by
  simp [family]

theorem segment_mem_candidatesOf {containers : List Container} {segment : Text}
    {member : Container} (h : member ∈ family containers segment) :
    segment ∈ candidatesOf member := by
  rcases mem_family.mp h with ⟨_, hlabel, hsegment⟩
  rw [← hsegment]
  exact mem_candidatesOf.mpr ⟨hlabel, isCandidate_firstSegment hlabel⟩

theorem firstSegment_of_mem_candidatesOf {container : Container} {part : Text}
    (h : part ∈ candidatesOf container) : firstSegment part = firstSegment container.label := by
  rw [mem_candidatesOf] at h
  exact h.2.firstSegment_eq h.1

/-- Containers outside of the family have none of its candidates. -/
theorem shareCount_eq_countP_family {containers : List Container} {part segment : Text}
    (h : firstSegment part = segment) :
    shareCount containers part =
      (family containers segment).countP fun container =>
        decide (part ∈ candidatesOf container) := by
  unfold shareCount family
  rw [List.countP_filter]
  apply List.countP_congr
  intro container _
  simp only [decide_eq_true_eq, Bool.and_eq_true]
  constructor
  · intro hpart
    refine ⟨hpart, (mem_candidatesOf.mp hpart).1, ?_⟩
    rw [← firstSegment_of_mem_candidatesOf hpart, h]
  · exact And.left

theorem shareCount_le_length_family (containers : List Container) {part segment : Text}
    (h : firstSegment part = segment) :
    shareCount containers part ≤ (family containers segment).length := by
  rw [shareCount_eq_countP_family h]
  exact List.countP_le_length

theorem shareCount_eq_length_family (containers : List Container) {part segment : Text}
    (h : firstSegment part = segment) :
    shareCount containers part = (family containers segment).length ↔
      ∀ member ∈ family containers segment, part ∈ candidatesOf member := by
  rw [shareCount_eq_countP_family h, List.countP_eq_length]
  simp

/-- Is a text the longest candidate that all of some containers have? -/
structure IsLongestShared (members : List Container) (key : Text) : Prop where
  shared : ∀ member ∈ members, key ∈ candidatesOf member
  longest : ∀ other, (∀ member ∈ members, other ∈ candidatesOf member) → other ≠ key →
    other.length < key.length

theorem IsLongestShared.eq {members : List Container} {key other : Text}
    (hkey : IsLongestShared members key) (hother : IsLongestShared members other) :
    key = other := by
  rcases Decidable.em (key = other) with h | h
  · exact h
  · have hlt := hother.longest key hkey.shared h
    have hgt := hkey.longest other hother.shared (Ne.symm h)
    omega

/-!
# The key of a container
-/

theorem eq_singleton_of_length_lt {members : List Container} {member : Container}
    (hmem : member ∈ members) (hlength : members.length < 2) : members = [member] := by
  cases members with
  | nil => cases hmem
  | cons first rest =>
      have hrest : rest = [] := by
        rw [List.length_cons] at hlength
        exact List.length_eq_zero_iff.mp (by omega)
      subst hrest
      rw [List.mem_singleton.mp hmem]

theorem keyIn_of_label_eq_nil (containers : List Container) {container : Container}
    (hlabel : container.label = []) : keyIn containers container = [] := by
  have hnone : candidatesOf container = [] := by
    apply List.eq_nil_iff_forall_not_mem.mpr
    intro part hpart
    exact (mem_candidatesOf.mp hpart).1 hlabel
  rw [keyIn, hnone, hlabel]
  rfl

theorem keyIn_of_family_eq_singleton {containers : List Container} {container : Container}
    (h : family containers (firstSegment container.label) = [container]) :
    keyIn containers container = container.label := by
  rcases selectKey_cases container.label (candidatesOf container) (indexOf containers) with
    ⟨_, hkey⟩ | hbest
  · exact hkey
  · have hshare := (isEligible_indexOf containers _).mp hbest.1
    have hle := shareCount_le_length_family containers
      (firstSegment_of_mem_candidatesOf hbest.mem)
    rw [h, List.length_singleton] at hle
    omega

theorem isLongestShared_label {container : Container} (hlabel : container.label ≠ []) :
    IsLongestShared [container] container.label := by
  constructor
  · intro member hmember
    rw [List.mem_singleton.mp hmember]
    exact mem_candidatesOf.mpr ⟨hlabel, Or.inl rfl⟩
  · intro other hother hne
    have hcand := (mem_candidatesOf.mp (hother container (by simp))).2
    have hle := hcand.isPrefix.length_le
    rcases Nat.lt_or_ge other.length container.label.length with hlt | hge
    · exact hlt
    · exact absurd (hcand.isPrefix.eq_of_length (Nat.le_antisymm hle hge)) hne

/-- In a family of several, nothing that all of them have is preferred to the best candidate, so
all of them have that one. -/
theorem isLongestShared_of_isBest {containers : List Container} {container : Container}
    {leader : Text} (hself : container ∈ family containers (firstSegment container.label))
    (hbest : IsBest (indexOf containers) (candidatesOf container) (some leader))
    (hseveral : 2 ≤ (family containers (firstSegment container.label)).length) :
    IsLongestShared (family containers (firstSegment container.label)) leader := by
  have hleader := firstSegment_of_mem_candidatesOf hbest.mem
  have hbeaten : ∀ {part : Text},
      (∀ member ∈ family containers (firstSegment container.label), part ∈ candidatesOf member) →
        part ∈ candidatesOf container ∧ part.length ≤ leader.length ∧
          shareCount containers leader =
            (family containers (firstSegment container.label)).length := by
    intro part hpart
    have hown := hpart container hself
    have hcount := (shareCount_eq_length_family containers
      (firstSegment_of_mem_candidatesOf hown)).mpr hpart
    have hle := shareCount_le_length_family containers hleader
    have hnot := hbest.outranks_eq_false hown
      ((isEligible_indexOf containers part).mpr (by omega))
    have hnot : ¬ outranks (indexOf containers) part leader = true := by simp [hnot]
    rw [outranks_eq_true, count_indexOf, count_indexOf] at hnot
    exact ⟨hown, by omega, by omega⟩
  constructor
  · exact (shareCount_eq_length_family containers hleader).mp
      (hbeaten fun member hmember => segment_mem_candidatesOf hmember).2.2
  · intro other hother hne
    rcases hbeaten hother with ⟨hown, hle, _⟩
    rcases Nat.lt_or_ge other.length leader.length with hlt | hge
    · exact hlt
    · exact absurd (IsCandidate.eq_of_length_eq (mem_candidatesOf.mp hown).2
        (mem_candidatesOf.mp hbest.mem).2 (Nat.le_antisymm hle hge)) hne

/-- The key of a container is the longest candidate that its family shares. -/
theorem isLongestShared_keyIn {containers : List Container} {container : Container}
    (hmem : container ∈ containers) (hlabel : container.label ≠ []) :
    IsLongestShared (family containers (firstSegment container.label))
      (keyIn containers container) := by
  have hself : container ∈ family containers (firstSegment container.label) :=
    mem_family.mpr ⟨hmem, hlabel, rfl⟩
  rcases Nat.lt_or_ge (family containers (firstSegment container.label)).length 2 with hone | htwo
  · have hsingle := eq_singleton_of_length_lt hself hone
    rw [keyIn_of_family_eq_singleton hsingle, hsingle]
    exact isLongestShared_label hlabel
  · rcases selectKey_cases container.label (candidatesOf container) (indexOf containers) with
      ⟨hnone, _⟩ | hbest
    · -- The first segment is shared by the whole family, so some candidate is eligible.
      have hshared := (shareCount_eq_length_family containers
        (firstSegment_of_mem_candidatesOf (segment_mem_candidatesOf hself))).mpr
          fun member hmember => segment_mem_candidatesOf hmember
      have heligible := (isEligible_indexOf containers (firstSegment container.label)).mpr
        (by omega)
      rw [hnone _ (segment_mem_candidatesOf hself)] at heligible
      cases heligible
    · exact isLongestShared_of_isBest hself hbest htwo

theorem keyIn_mem_candidatesOf {containers : List Container} {container : Container}
    (hmem : container ∈ containers) (hlabel : container.label ≠ []) :
    keyIn containers container ∈ candidatesOf container :=
  (isLongestShared_keyIn hmem hlabel).shared container (mem_family.mpr ⟨hmem, hlabel, rfl⟩)

theorem keyIn_ne_nil {containers : List Container} {container : Container}
    (hmem : container ∈ containers) (hlabel : container.label ≠ []) :
    keyIn containers container ≠ [] :=
  (mem_candidatesOf.mp (keyIn_mem_candidatesOf hmem hlabel)).2.ne_nil hlabel

/-- Two containers have one key exactly when their labels have one first segment. -/
theorem keyIn_eq_keyIn_iff {containers : List Container} {first second : Container}
    (hfirst : first ∈ containers) (hsecond : second ∈ containers)
    (hfirstLabel : first.label ≠ []) (hsecondLabel : second.label ≠ []) :
    keyIn containers first = keyIn containers second ↔
      firstSegment first.label = firstSegment second.label := by
  constructor
  · intro hkey
    rw [← firstSegment_of_mem_candidatesOf (keyIn_mem_candidatesOf hfirst hfirstLabel),
      ← firstSegment_of_mem_candidatesOf (keyIn_mem_candidatesOf hsecond hsecondLabel), hkey]
  · intro hsegment
    have hkey := isLongestShared_keyIn hfirst hfirstLabel
    rw [hsegment] at hkey
    exact hkey.eq (isLongestShared_keyIn hsecond hsecondLabel)

end Grouping

end ContainerDesk
