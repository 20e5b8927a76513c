import ContainerDesk.Value.Basic

/-!
# Entries of tables

Putting a value under a key keeps the keys apart, and what stands in the table
afterwards is the new entry or stood there before.  A new key goes to the end.
-/

namespace ContainerDesk

variable {α : Type}

theorem nodup_keys_putEntry {key : Text} (value : α) {entries : List (Text × α)}
    (h : (entries.map (·.1)).Nodup) : ((putEntry key value entries).map (·.1)).Nodup := by
  by_cases hkey : key ∈ entries.map (·.1)
  · rw [keys_putEntry_of_mem value hkey]
    exact h
  · rw [keys_putEntry_of_not_mem value hkey]
    apply List.nodup_append.mpr
    refine ⟨h, List.nodup_cons.mpr ⟨List.not_mem_nil, List.nodup_nil⟩, ?_⟩
    intro old hold new hnew heq
    rw [List.mem_singleton.mp hnew] at heq
    exact hkey (heq ▸ hold)

theorem putEntry_of_not_mem {key : Text} (value : α) {entries : List (Text × α)}
    (h : key ∉ entries.map (·.1)) : putEntry key value entries = entries ++ [(key, value)] := by
  induction entries with
  | nil => rfl
  | cons first rest ih =>
      rcases first with ⟨other, old⟩
      have hother : other ≠ key := fun heq => h (heq ▸ List.mem_cons_self)
      have hrest : key ∉ rest.map (·.1) := fun hmem => h (List.mem_cons_of_mem _ hmem)
      rw [putEntry, if_neg hother, ih hrest, List.cons_append]

theorem foldl_putEntry {entries table : List (Text × α)}
    (h : ((table ++ entries).map (·.1)).Nodup) :
    entries.foldl (fun table entry => putEntry entry.1 entry.2 table) table =
      table ++ entries := by
  induction entries generalizing table with
  | nil => rw [List.foldl_nil, List.append_nil]
  | cons entry rest ih =>
      have hkey : entry.1 ∉ table.map (·.1) := by
        intro hmem
        rw [List.map_append, List.map_cons] at h
        exact (List.nodup_append.mp h).2.2 _ hmem _ List.mem_cons_self rfl
      have hsplit : table ++ entry :: rest = table ++ [entry] ++ rest := by
        rw [List.append_assoc, List.singleton_append]
      rw [List.foldl_cons, putEntry_of_not_mem _ hkey, hsplit]
      exact ih (hsplit ▸ h)

/-!
# Looking up
-/

theorem lookup_map {β : Type} (name : β → Text) (value : β → α) (items : List β) (key : Text) :
    (items.map fun item => (name item, value item)).lookup key =
      (items.find? fun item => name item = key).map value := by
  induction items with
  | nil => rfl
  | cons item rest ih =>
      rw [List.map_cons, List.lookup_cons, List.find?_cons]
      by_cases h : name item = key
      · simp [h]
      · have hb : (key == name item) = false := beq_eq_false_iff_ne.mpr (Ne.symm h)
        simp [h, hb, ih]

theorem lookup_filter (keep : Text → Bool) {key : Text} (hkey : keep key = true)
    (entries : List (Text × α)) :
    (entries.filter fun entry => keep entry.1).lookup key = entries.lookup key := by
  induction entries with
  | nil => rfl
  | cons entry rest ih =>
      by_cases hfirst : key = entry.1
      · rw [List.filter_cons_of_pos (hfirst ▸ hkey), List.lookup_cons, List.lookup_cons, ih]
      · have hb : (key == entry.1) = false := beq_eq_false_iff_ne.mpr hfirst
        rw [List.lookup_cons, hb, List.filter_cons]
        split
        · rw [List.lookup_cons, hb]
          exact ih
        · exact ih

theorem lookup_of_mem {key : Text} {value : α} {entries : List (Text × α)}
    (hkeys : (entries.map (·.1)).Nodup) (h : (key, value) ∈ entries) :
    entries.lookup key = some value := by
  induction entries with
  | nil => exact absurd h List.not_mem_nil
  | cons entry rest ih =>
      rw [List.map_cons, List.nodup_cons] at hkeys
      rcases List.mem_cons.mp h with rfl | h
      · rw [List.lookup_cons, beq_self_eq_true]
      · have hne : (key == entry.1) = false := by
          rw [beq_eq_false_iff_ne]
          rintro rfl
          exact hkeys.1 (List.mem_map.mpr ⟨_, h, rfl⟩)
        rw [List.lookup_cons, hne]
        exact ih hkeys.2 h

theorem lookup_of_not_mem {key : Text} {entries : List (Text × α)}
    (h : key ∉ entries.map (·.1)) : entries.lookup key = none := by
  rw [List.lookup_eq_none_iff]
  intro entry hentry
  rw [bne_iff_ne]
  rintro rfl
  exact h (List.mem_map.mpr ⟨entry, hentry, rfl⟩)

end ContainerDesk
