import ContainerDesk.Grouping.Group
import ContainerDesk.Proofs.Sorting

/-!
# The orders of members and groups

Members that tie agree in whether they run, in their label and in their identifier,
groups that tie in whether a member runs, in their size and in their key.

A group holds the members that it was made of, and the order in which they came matters
only among members that tie.
-/

namespace ContainerDesk

namespace Group

/-!
# What ties
-/

theorem memberOrder_eq :
    memberOrder = firstBy Container.isRunning (fun first _ => first)
      (firstBy Container.label Text.atMost fun first second => first.id.atMost second.id) := rfl

theorem groupOrder_eq :
    groupOrder = firstBy hasRunning (fun first _ => first)
      (firstBy size (fun first second => decide (second < first))
        fun first second => first.key.atMost second.key) := rfl

theorem isOrder_memberOrder : IsOrder memberOrder :=
  ((isOrder_atMost Container.id).firstBy isLinear_atMost).firstBy isLinear_running

theorem isOrder_groupOrder : IsOrder groupOrder :=
  ((isOrder_atMost key).firstBy isLinear_descending).firstBy isLinear_running

theorem memberOrder_antisymm {first second : Container}
    (h : memberOrder first second = true) (hback : memberOrder second first = true) :
    first.isRunning = second.isRunning ∧ first.label = second.label ∧ first.id = second.id := by
  rw [memberOrder_eq] at h hback
  rcases firstBy_antisymm isLinear_running h hback with ⟨hrun, h, hback⟩
  rcases firstBy_antisymm isLinear_atMost h hback with ⟨hlabel, h, hback⟩
  exact ⟨hrun, hlabel, Text.atMost_antisymm h hback⟩

theorem memberOrder_of_agree {first second : Container}
    (hrun : first.isRunning = second.isRunning) (hlabel : first.label = second.label)
    (hid : first.id = second.id) : memberOrder first second = true := by
  rw [memberOrder_eq, firstBy_of_eq hrun, firstBy_of_eq hlabel, hid]
  exact Text.atMost_refl second.id

theorem ties_memberOrder {first second : Container} :
    ties memberOrder first second = true ↔
      first.isRunning = second.isRunning ∧ first.label = second.label ∧ first.id = second.id := by
  rw [ties_eq_true]
  constructor
  · rintro ⟨h, hback⟩
    exact memberOrder_antisymm h hback
  · rintro ⟨hrun, hlabel, hid⟩
    exact ⟨memberOrder_of_agree hrun hlabel hid,
      memberOrder_of_agree hrun.symm hlabel.symm hid.symm⟩

theorem groupOrder_antisymm {first second : Group}
    (h : groupOrder first second = true) (hback : groupOrder second first = true) :
    first.hasRunning = second.hasRunning ∧ first.size = second.size ∧
      first.key = second.key := by
  rw [groupOrder_eq] at h hback
  rcases firstBy_antisymm isLinear_running h hback with ⟨hrun, h, hback⟩
  rcases firstBy_antisymm isLinear_descending h hback with ⟨hsize, h, hback⟩
  exact ⟨hrun, hsize, Text.atMost_antisymm h hback⟩

theorem groupOrder_of_agree {first second : Group}
    (hrun : first.hasRunning = second.hasRunning) (hsize : first.size = second.size)
    (hkey : first.key = second.key) : groupOrder first second = true := by
  rw [groupOrder_eq, firstBy_of_eq hrun, firstBy_of_eq hsize, hkey]
  exact Text.atMost_refl second.key

theorem ties_groupOrder {first second : Group} :
    ties groupOrder first second = true ↔
      first.hasRunning = second.hasRunning ∧ first.size = second.size ∧
        first.key = second.key := by
  rw [ties_eq_true]
  constructor
  · rintro ⟨h, hback⟩
    exact groupOrder_antisymm h hback
  · rintro ⟨hrun, hsize, hkey⟩
    exact ⟨groupOrder_of_agree hrun hsize hkey,
      groupOrder_of_agree hrun.symm hsize.symm hkey.symm⟩

/-!
# Gathering
-/

@[simp] theorem gather_key (key : Text) (members : List Container) :
    (gather key members).key = key := rfl

theorem gather_members (key : Text) (members : List Container) :
    (gather key members).members = members.mergeSort memberOrder := rfl

theorem gather_members_perm (key : Text) (members : List Container) :
    (gather key members).members.Perm members :=
  List.mergeSort_perm members memberOrder

@[simp] theorem mem_gather {key : Text} {members : List Container} {container : Container} :
    container ∈ (gather key members).members ↔ container ∈ members :=
  (gather_members_perm key members).mem_iff

@[simp] theorem gather_singleton_members (key : Text) (container : Container) :
    (gather key [container]).members = [container] := by
  simp [gather_members]

theorem hasRunning_gather (key : Text) (members : List Container) :
    (gather key members).hasRunning = members.any Container.isRunning := by
  have hcount : (gather key members).running = members.countP Container.isRunning :=
    (List.mergeSort_perm members memberOrder).countP_eq Container.isRunning
  rw [hasRunning, hcount, Bool.eq_iff_iff, decide_eq_true_eq, List.countP_pos_iff, List.any_eq_true]

@[simp] theorem hasRunning_gather_singleton (key : Text) (container : Container) :
    (gather key [container]).hasRunning = container.isRunning := by
  simp [hasRunning_gather]

/-- A group depends on the order of its members only where they tie. -/
theorem gather_eq_of_ties (key : Text) {members others : List Container}
    (hperm : members.Perm others)
    (hties : ∀ member ∈ members, members.filter (ties memberOrder member) =
      others.filter (ties memberOrder member)) :
    gather key members = gather key others := by
  simp only [gather, mergeSort_eq_of_ties isOrder_memberOrder hperm hties]

end Group

end ContainerDesk
