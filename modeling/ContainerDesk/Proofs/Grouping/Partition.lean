import ContainerDesk.Proofs.Grouping.Group
import Mathlib.Data.List.Perm.Basic

/-!
# The partition of containers

The partition has one entry for each key that some container with a label has, in the
order of the first such containers, and under it all of those containers in their
order.  The containers without a label stay apart.

So the groups are one for each of these keys and one for each container without a
label, and together they have the members that went in, each as often.
-/

namespace ContainerDesk

/-!
# Tables of distinct keys
-/

section Tables

variable {α β : Type}

theorem distinct_append_singleton [DecidableEq α] (xs : List α) (x : α) :
    distinct (xs ++ [x]) = if x ∈ xs then distinct xs else distinct xs ++ [x] := by
  induction xs with
  | nil => rfl
  | cons y rest ih =>
      rw [List.cons_append, distinct, ih, distinct]
      by_cases hyx : x = y
      · subst hyx
        by_cases hmem : x ∈ rest
        · simp [hmem]
        · simp [hmem, List.filter_append]
      · by_cases hmem : x ∈ rest
        · simp [hyx, hmem]
        · simp [hyx, hmem, List.filter_append]

theorem lookup_map_pair (keys : List Text) (f : Text → α) (key : Text) :
    (keys.map fun k => (k, f k)).lookup key = if key ∈ keys then some (f key) else none := by
  induction keys with
  | nil => rfl
  | cons k rest ih =>
      by_cases h : key = k
      · simp [h]
      · have hb : (key == k) = false := by simpa using h
        simp [List.lookup_cons, hb, h, ih]

theorem putEntry_map_pair_of_mem {keys : List Text} (hnodup : keys.Nodup) {key : Text}
    (hmem : key ∈ keys) (f : Text → α) (value : α) :
    putEntry key value (keys.map fun k => (k, f k)) =
      keys.map fun k => (k, if k = key then value else f k) := by
  induction keys with
  | nil => cases hmem
  | cons k rest ih =>
      have ⟨hk, hrest⟩ := List.nodup_cons.mp hnodup
      rw [List.map_cons, putEntry, List.map_cons]
      by_cases h : k = key
      · subst h
        have hsame : rest.map (fun j => (j, if j = k then value else f j)) =
            rest.map fun j => (j, f j) := by
          apply List.map_congr_left
          intro j hj
          have hjk : j ≠ k := fun hjk => hk (hjk ▸ hj)
          simp [hjk]
        simp [hsame]
      · have hmem : key ∈ rest := by
          rcases List.mem_cons.mp hmem with hkey | hmem
          · exact absurd hkey.symm h
          · exact hmem
        simp [h, ih hrest hmem]

theorem putEntry_map_pair_of_not_mem {keys : List Text} {key : Text} (hmem : key ∉ keys)
    (f : Text → α) (value : α) :
    putEntry key value (keys.map fun k => (k, f k)) =
      keys.map (fun k => (k, f k)) ++ [(key, value)] := by
  induction keys with
  | nil => rfl
  | cons k rest ih =>
      have hk : ¬ k = key := fun hk => hmem (List.mem_cons.mpr (Or.inl hk.symm))
      have hrest : key ∉ rest := fun hrest => hmem (List.mem_cons.mpr (Or.inr hrest))
      simp [putEntry, hk, ih hrest]

theorem flatMap_filter_perm [DecidableEq β] {keys : List β} (hnodup : keys.Nodup)
    {feature : α → β} {xs : List α} (hkeys : ∀ x ∈ xs, feature x ∈ keys) :
    (keys.flatMap fun key => xs.filter fun x => decide (feature x = key)).Perm xs := by
  induction keys generalizing xs with
  | nil =>
      cases xs with
      | nil => exact List.Perm.refl []
      | cons x rest => exact absurd (hkeys x (by simp)) (by simp)
  | cons key rest ih =>
      have ⟨hkey, hrest⟩ := List.nodup_cons.mp hnodup
      -- The later keys collect only from what the first key leaves over.
      have hleft : (rest.flatMap fun k => xs.filter fun x => decide (feature x = k)) =
          rest.flatMap fun k =>
            (xs.filter fun x => !decide (feature x = key)).filter fun x =>
              decide (feature x = k) := by
        apply List.flatMap_congr
        intro k hk
        have hne : k ≠ key := fun h => hkey (h ▸ hk)
        rw [List.filter_filter]
        apply List.filter_congr
        intro x _
        by_cases hx : feature x = k
        · simp [hx, hne]
        · simp [hx]
      have hcollect : (rest.flatMap fun k =>
          (xs.filter fun x => !decide (feature x = key)).filter fun x =>
            decide (feature x = k)).Perm (xs.filter fun x => !decide (feature x = key)) := by
        apply ih hrest
        intro x hx
        rcases List.mem_filter.mp hx with ⟨hmem, hne⟩
        rcases List.mem_cons.mp (hkeys x hmem) with h | h
        · simp [h] at hne
        · exact h
      rw [List.flatMap_cons, hleft]
      exact (hcollect.append_left _).trans (List.filter_append_perm _ xs)

end Tables

namespace Grouping

/-!
# The entries of the partition
-/

def labelled (keyed : List (Container × Text)) : List (Container × Text) :=
  keyed.filter fun entry => !entry.1.label.isEmpty

def labelledKeys (keyed : List (Container × Text)) : List Text :=
  distinct ((labelled keyed).map (·.2))

def membersUnder (keyed : List (Container × Text)) (key : Text) : List Container :=
  ((labelled keyed).filter fun entry => decide (entry.2 = key)).map (·.1)

theorem mem_labelledKeys {keyed : List (Container × Text)} {key : Text} :
    key ∈ labelledKeys keyed ↔
      ∃ container, (container, key) ∈ keyed ∧ container.label ≠ [] := by
  simp [labelledKeys, labelled, mem_distinct]

theorem nodup_labelledKeys (keyed : List (Container × Text)) : (labelledKeys keyed).Nodup :=
  nodup_distinct _

theorem mem_membersUnder {keyed : List (Container × Text)} {key : Text} {container : Container} :
    container ∈ membersUnder keyed key ↔
      (container, key) ∈ keyed ∧ container.label ≠ [] := by
  simp only [membersUnder, labelled, List.mem_map, List.mem_filter, decide_eq_true_eq,
    Bool.not_eq_true', List.isEmpty_eq_false_iff]
  constructor
  · rintro ⟨⟨member, other⟩, ⟨⟨hmem, hlabel⟩, rfl⟩, rfl⟩
    exact ⟨hmem, hlabel⟩
  · rintro ⟨hmem, hlabel⟩
    exact ⟨(container, key), ⟨⟨hmem, hlabel⟩, rfl⟩, rfl⟩

theorem membersUnder_eq_nil {keyed : List (Container × Text)} {key : Text}
    (h : key ∉ labelledKeys keyed) : membersUnder keyed key = [] := by
  apply List.eq_nil_iff_forall_not_mem.mpr
  intro container hmem
  exact h (mem_labelledKeys.mpr ⟨container, mem_membersUnder.mp hmem⟩)

theorem labelledKeys_concat (keyed : List (Container × Text)) {container : Container} (key : Text)
    (h : container.label ≠ []) :
    labelledKeys (keyed ++ [(container, key)]) =
      if key ∈ labelledKeys keyed then labelledKeys keyed else labelledKeys keyed ++ [key] := by
  have hlabel : container.label.isEmpty = false := by simpa [List.isEmpty_iff] using h
  have hmem : key ∈ labelledKeys keyed ↔ key ∈ (labelled keyed).map (·.2) := mem_distinct
  have hmore : (labelled (keyed ++ [(container, key)])).map (·.2) =
      (labelled keyed).map (·.2) ++ [key] := by
    simp [labelled, hlabel]
  rw [labelledKeys, hmore, distinct_append_singleton]
  by_cases hin : key ∈ (labelled keyed).map (·.2)
  · rw [if_pos hin, if_pos (hmem.mpr hin), labelledKeys]
  · rw [if_neg hin, if_neg (fun h => hin (hmem.mp h)), labelledKeys]

theorem membersUnder_concat (keyed : List (Container × Text)) {container : Container} (key : Text)
    (h : container.label ≠ []) (other : Text) :
    membersUnder (keyed ++ [(container, key)]) other =
      if other = key then membersUnder keyed key ++ [container] else membersUnder keyed other := by
  have hlabel : container.label.isEmpty = false := by simpa [List.isEmpty_iff] using h
  by_cases hother : other = key
  · simp [membersUnder, labelled, hlabel, hother]
  · simp [membersUnder, labelled, hlabel, hother, Ne.symm hother]

/-- One more container goes to the end of its entry, or opens an entry at the end. -/
theorem addMember_entries (keyed : List (Container × Text)) {container : Container} (key : Text)
    (h : container.label ≠ []) :
    addMember ((labelledKeys keyed).map fun k => (k, membersUnder keyed k)) key container =
      (labelledKeys (keyed ++ [(container, key)])).map fun k =>
        (k, membersUnder (keyed ++ [(container, key)]) k) := by
  have hmembers := membersUnder_concat keyed key h
  unfold addMember
  rw [lookup_map_pair, labelledKeys_concat keyed key h]
  by_cases hmem : key ∈ labelledKeys keyed
  · simp only [hmem, if_true, Option.getD_some]
    rw [putEntry_map_pair_of_mem (nodup_labelledKeys keyed) hmem]
    apply List.map_congr_left
    intro k _
    rw [hmembers]
  · simp only [hmem, if_false, Option.getD_none, List.nil_append]
    rw [putEntry_map_pair_of_not_mem hmem, List.map_append]
    congr 1
    · apply List.map_congr_left
      intro k hk
      have hne : k ≠ key := fun h => hmem (h ▸ hk)
      rw [hmembers, if_neg hne]
    · simp [hmembers, membersUnder_eq_nil hmem]

theorem partition_eq (keyed : List (Container × Text)) :
    partition keyed = (labelledKeys keyed).map fun key => (key, membersUnder keyed key) := by
  have hrun : ∀ rest seen : List (Container × Text),
      rest.foldl
          (fun table entry =>
            if entry.1.label.isEmpty then table else addMember table entry.2 entry.1)
          ((labelledKeys seen).map fun key => (key, membersUnder seen key)) =
        (labelledKeys (seen ++ rest)).map fun key => (key, membersUnder (seen ++ rest) key) := by
    intro rest
    induction rest with
    | nil => intro seen; simp
    | cons entry rest ih =>
        intro seen
        rcases entry with ⟨container, key⟩
        have hnext := ih (seen ++ [(container, key)])
        rw [List.append_assoc, List.singleton_append] at hnext
        rw [List.foldl_cons, ← hnext]
        by_cases hlabel : container.label = []
        · have hsame : labelled (seen ++ [(container, key)]) = labelled seen := by
            simp [labelled, hlabel]
          simp [hlabel, labelledKeys, membersUnder, hsame]
        · have hfalse : container.label.isEmpty = false := by
            simpa [List.isEmpty_iff] using hlabel
          simp only [hfalse, Bool.false_eq_true, if_false]
          rw [addMember_entries seen key hlabel]
  exact hrun keyed []

/-!
# Batches
-/

/-- The keyed containers that come into one group, and the key of the group. -/
structure Batch where
  key : Text
  entries : List (Container × Text)

namespace Batch

def group (batch : Batch) : Group :=
  Group.gather batch.key (batch.entries.map (·.1))

def under (keyed : List (Container × Text)) (key : Text) : Batch :=
  ⟨key, (labelled keyed).filter fun entry => decide (entry.2 = key)⟩

/-- A container without a label, alone whatever its key. -/
def lone (entry : Container × Text) : Batch :=
  ⟨[], [entry]⟩

end Batch

def batches (keyed : List (Container × Text)) : List Batch :=
  (labelledKeys keyed).map (Batch.under keyed) ++
    (keyed.filter fun entry => entry.1.label.isEmpty).map Batch.lone

/-- Every keyed container is in one batch, as often as it comes. -/
theorem flatMap_entries_batches (keyed : List (Container × Text)) :
    ((batches keyed).flatMap Batch.entries).Perm keyed := by
  have hlabelled : ((labelledKeys keyed).flatMap fun key => (Batch.under keyed key).entries).Perm
      (labelled keyed) := by
    apply flatMap_filter_perm (nodup_labelledKeys keyed)
    intro entry hentry
    exact mem_distinct.mpr (List.mem_map_of_mem hentry)
  have hlone : (keyed.filter fun entry => entry.1.label.isEmpty).flatMap
      (fun entry => (Batch.lone entry).entries) =
        keyed.filter fun entry => entry.1.label.isEmpty := by
    simp [Batch.lone]
  have hsplit : (labelled keyed ++ keyed.filter fun entry => entry.1.label.isEmpty).Perm keyed := by
    have := List.filter_append_perm (fun entry : Container × Text => !entry.1.label.isEmpty) keyed
    simpa [labelled] using this
  rw [batches, List.flatMap_append, List.flatMap_map, List.flatMap_map, hlone]
  exact (hlabelled.append_right _).trans hsplit

theorem eq_under_of_mem {keyed : List (Container × Text)} {batch : Batch}
    {entry : Container × Text} (hbatch : batch ∈ batches keyed) (hentry : entry ∈ batch.entries)
    (hlabel : entry.1.label ≠ []) : batch = Batch.under keyed entry.2 := by
  rcases List.mem_append.mp hbatch with hbatch | hbatch
  · rcases List.mem_map.mp hbatch with ⟨key, _, rfl⟩
    have hkey : entry.2 = key := by simpa using (List.mem_filter.mp hentry).2
    rw [hkey]
  · rcases List.mem_map.mp hbatch with ⟨other, hother, rfl⟩
    have hempty := List.isEmpty_iff.mp (List.mem_filter.mp hother).2
    rw [List.mem_singleton.mp hentry] at hlabel
    exact absurd hempty hlabel

theorem eq_lone_of_mem {keyed : List (Container × Text)} {batch : Batch}
    {entry : Container × Text} (hbatch : batch ∈ batches keyed) (hentry : entry ∈ batch.entries)
    (hlabel : entry.1.label = []) : batch = Batch.lone entry := by
  rcases List.mem_append.mp hbatch with hbatch | hbatch
  · rcases List.mem_map.mp hbatch with ⟨key, _, rfl⟩
    have hlabelled := (List.mem_filter.mp (List.mem_filter.mp hentry).1).2
    simp [hlabel] at hlabelled
  · rcases List.mem_map.mp hbatch with ⟨other, _, rfl⟩
    rw [List.mem_singleton.mp hentry]

theorem pairwise_batches (keyed : List (Container × Text)) :
    (batches keyed).Pairwise fun batch other =>
      ∀ entry ∈ batch.entries, ∀ entry' ∈ other.entries, entry.1.label ≠ [] →
        entry'.1.label ≠ [] → entry.2 ≠ entry'.2 := by
  have hlone : ∀ {batch : Batch} {entry : Container × Text}, entry ∈ batch.entries →
      batch ∈ (keyed.filter fun entry => entry.1.label.isEmpty).map Batch.lone →
      entry.1.label = [] := by
    intro batch entry hentry hbatch
    rcases List.mem_map.mp hbatch with ⟨other, hother, rfl⟩
    rw [List.mem_singleton.mp hentry]
    exact List.isEmpty_iff.mp (List.mem_filter.mp hother).2
  rw [batches, List.pairwise_append]
  refine ⟨?_, ?_, ?_⟩
  · apply List.pairwise_map.mpr
    apply (nodup_labelledKeys keyed).imp
    intro key other hne entry hentry entry' hentry' _ _ hsame
    have hkey : entry.2 = key := by simpa using (List.mem_filter.mp hentry).2
    have hother : entry'.2 = other := by simpa using (List.mem_filter.mp hentry').2
    exact hne (hkey.symm.trans (hsame.trans hother))
  · apply List.pairwise_of_forall_mem_list
    intro batch hbatch _ _ entry hentry _ _ hlabel
    exact absurd (hlone hentry hbatch) hlabel
  · intro _ _ other hother _ _ entry' hentry' _ hlabel
    exact absurd (hlone hentry' hother) hlabel

/-!
# The groups
-/

def unsortedGroups (keyed : List (Container × Text)) : List Group :=
  (labelledKeys keyed).map (fun key => Group.gather key (membersUnder keyed key)) ++
    (orphans keyed).map fun container => Group.gather [] [container]

theorem map_group_batches (keyed : List (Container × Text)) :
    (batches keyed).map Batch.group = unsortedGroups keyed := by
  rw [batches, unsortedGroups, orphans, List.filter_map, List.map_append]
  simp only [List.map_map]
  rfl

def sortedGroups (keyed : List (Container × Text)) : List Group :=
  (unsortedGroups keyed).mergeSort Group.groupOrder

theorem groupsOf_eq (keyed : List (Container × Text)) :
    groupsOf keyed = .ok (sortedGroups keyed) := by
  rw [groupsOf_eq_ok, partition_eq, List.map_map]
  rfl

theorem buildGroups_eq {containers : List Container} {keys : List Text}
    (h : containers.length = keys.length) :
    buildGroups containers keys = .ok (sortedGroups (containers.zip keys)) := by
  rw [buildGroups, if_neg (not_not_intro h), groupsOf_eq]

theorem sortedGroups_perm (keyed : List (Container × Text)) :
    (sortedGroups keyed).Perm (unsortedGroups keyed) :=
  List.mergeSort_perm (unsortedGroups keyed) Group.groupOrder

/-- A group is that of a key, or it is that of a single container without a label. -/
theorem mem_sortedGroups {keyed : List (Container × Text)} {group : Group} :
    group ∈ sortedGroups keyed ↔
      (∃ key ∈ labelledKeys keyed, group = Group.gather key (membersUnder keyed key)) ∨
        ∃ container ∈ orphans keyed, group = Group.gather [] [container] := by
  rw [(sortedGroups_perm keyed).mem_iff, unsortedGroups, List.mem_append]
  simp [eq_comm]

theorem flatMap_members_sortedGroups (keyed : List (Container × Text)) :
    ((sortedGroups keyed).flatMap Group.members).Perm (keyed.map (·.1)) := by
  have hgroups : ((unsortedGroups keyed).flatMap Group.members).Perm
      ((batches keyed).flatMap fun batch => batch.entries.map (·.1)) := by
    rw [← map_group_batches, List.flatMap_map]
    apply List.Perm.flatMap_left
    intro batch _
    exact Group.gather_members_perm batch.key (batch.entries.map (·.1))
  have hentries := (flatMap_entries_batches keyed).map (·.1)
  rw [List.map_flatMap] at hentries
  exact ((sortedGroups_perm keyed).flatMap_right Group.members).trans (hgroups.trans hentries)

end Grouping

end ContainerDesk
