import ContainerDesk.Proofs.Action
import ContainerDesk.Proofs.Settings.Domain

/-!
# What is taken from a file

A file is taken when each section of the schema that it has is a table, and each value
there for which the section has a field is one that the field may hold.  A setting then
has the value of the file, or where there is none, the value that it had before.
-/

namespace ContainerDesk

namespace Schema

/-- What the entries of a settings file say about a setting, if they say something. -/
def valueIn? (entries : List (Text × Value)) (name key : Text) : Option Value :=
  match entries.lookup name with
  | some (.table settings) => settings.lookup key
  | _ => none

/-- May the entry stand in a settings file?  Nothing is asked of names and keys that the schema does
not have. -/
def Allows (entry : Text × Value) : Prop :=
  ∀ schema, sections.lookup entry.1 = some schema →
    ∃ settings, entry.2 = .table settings ∧
      ∀ setting ∈ settings, ∀ field, schema.lookup setting.1 = some field →
        field.Admits setting.2

end Schema

/-!
# Sections
-/

namespace Section

def value? (part : Section) (key : Text) : Option Value :=
  (part.setting? key).map (·.value)

theorem value_putAll (part : Section) {entries : List (Text × Value)}
    (hkeys : (entries.map (·.1)).Nodup) (key : Text) :
    (part.putAll entries).value? key =
      (part.value? key).map fun old => (entries.lookup key).getD old := by
  unfold value? setting?
  rw [settings_putAll part hkeys, List.find?_map, Option.map_map, Option.map_map]
  show (part.settings.find? fun setting => decide (setting.key = key)).map _ = _
  cases hfound : part.settings.find? fun setting => decide (setting.key = key) with
  | none => rfl
  | some setting =>
      have hkey : setting.key = key := by simpa using List.find?_some hfound
      simp only [Option.map_some, Function.comp_apply, hkey]

theorem IsSound.refuses_iff {part : Section} (h : part.IsSound) {entry : Text × Value} :
    part.Refuses entry ↔
      ∃ field, part.schema.lookup entry.1 = some field ∧ ¬ field.Admits entry.2 := by
  rw [lookup_schema]
  constructor
  · intro hrefuses
    rcases hrefuses with ⟨setting, hsetting, hrefused⟩
    have hform := h.hasForm (List.mem_of_find?_eq_some hsetting)
    refine ⟨setting.field, ?_, fun hadmits => hrefused (hform.accepts_iff.mpr hadmits)⟩
    rw [hsetting]
    rfl
  · intro hrefuses
    rcases hrefuses with ⟨field, hfield, hrefused⟩
    rcases Option.map_eq_some_iff.mp hfield with ⟨setting, hsetting, rfl⟩
    have hform := h.hasForm (List.mem_of_find?_eq_some hsetting)
    exact ⟨setting, hsetting, fun haccepts => hrefused (hform.accepts_iff.mp haccepts)⟩

theorem IsSound.not_refuses_iff {part : Section} (h : part.IsSound) {entry : Text × Value} :
    ¬ part.Refuses entry ↔
      ∀ field, part.schema.lookup entry.1 = some field → field.Admits entry.2 := by
  rw [h.refuses_iff]
  constructor
  · intro hnone field hfield
    apply Classical.byContradiction
    exact fun hrefused => hnone ⟨field, hfield, hrefused⟩
  · intro hall hrefuses
    rcases hrefuses with ⟨field, hfield, hrefused⟩
    exact hrefused (hall field hfield)

theorem IsSound.isOk_update {part : Section} (h : part.IsSound) {entries : List (Text × Value)} :
    (part.update entries).1.isOk = true ↔
      ∀ entry ∈ entries, ∀ field, part.schema.lookup entry.1 = some field →
        field.Admits entry.2 := by
  rcases part.update_cases entries with
    ⟨haccepts, htaken⟩ | ⟨front, entry, rest, fault, rfl, _, hrefuses, _, hrefused⟩
  · rw [htaken]
    exact ⟨fun _ entry hentry => h.not_refuses_iff.mp (haccepts entry hentry), fun _ => rfl⟩
  · rw [hrefused]
    constructor
    · intro hok
      cases hok
    · intro hall
      exact absurd hrefuses (h.not_refuses_iff.mpr (hall entry (by simp)))

theorem value_update {part after : Section} {entries : List (Text × Value)} {notes : Journal}
    (h : part.update entries = (.ok after, notes)) (hkeys : (entries.map (·.1)).Nodup)
    (key : Text) :
    after.value? key = (part.value? key).map fun old => (entries.lookup key).getD old := by
  rcases part.update_cases entries with ⟨_, htaken⟩ | ⟨_, _, _, _, _, _, _, _, hrefused⟩
  · rw [htaken] at h
    cases h
    have hnodup : ((part.known entries).map (·.1)).Nodup :=
      (List.filter_sublist.map _).nodup hkeys
    rw [value_putAll part hnodup]
    cases hsetting : part.setting? key with
    | none =>
        unfold value?
        rw [hsetting]
        rfl
    | some setting =>
        have hknown : (part.setting? key).isSome = true := by
          rw [hsetting]
          rfl
        unfold known
        rw [lookup_filter (fun name => (part.setting? name).isSome) hknown]
  · rw [hrefused] at h
    cases h

end Section

/-!
# Editions
-/

namespace Schema

theorem valueIn_cons_self (name key : Text) (settings : List (Text × Value))
    (rest : List (Text × Value)) :
    valueIn? ((name, .table settings) :: rest) name key = settings.lookup key := by
  unfold valueIn?
  rw [List.lookup_cons, beq_self_eq_true]

theorem valueIn_cons_of_ne {name other : Text} (h : name ≠ other) (key : Text) (data : Value)
    (rest : List (Text × Value)) :
    valueIn? ((other, data) :: rest) name key = valueIn? rest name key := by
  unfold valueIn?
  rw [List.lookup_cons, beq_eq_false_iff_ne.mpr h]

theorem valueIn_of_not_mem {entries : List (Text × Value)} {name : Text}
    (h : name ∉ entries.map (·.1)) (key : Text) : valueIn? entries name key = none := by
  unfold valueIn?
  rw [lookup_of_not_mem h]

end Schema

namespace Edition

def value? (edition : Edition) (name key : Text) : Option Value :=
  (edition.part? name).bind fun part => part.value? key

variable {edition : Edition}

theorem IsSound.lookup_sections (h : edition.IsSound) (name : Text) :
    Schema.sections.lookup name = (edition.part? name).map (·.schema) := by
  rw [← h.schema]
  exact lookup_map Section.name Section.schema edition name

theorem IsSound.part_version (h : edition.IsSound) : edition.part? Schema.versionKey = none :=
  part_eq_none.mpr (h.names ▸ Schema.versionKey_not_mem)

theorem part_replace (edition : Edition) (part : Section) (name : Text) :
    (edition.replace part).part? name =
      (edition.part? name).map fun old => if old.name = part.name then part else old := by
  unfold part? replace
  rw [List.find?_map]
  congr 2
  funext old
  by_cases h : old.name = part.name
  · simp [h]
  · simp [h]

theorem value_replace_self {part updated : Section} {name : Text}
    (hpart : edition.part? name = some part) (hname : updated.name = part.name) (key : Text) :
    (edition.replace updated).value? name key = updated.value? key := by
  unfold value?
  rw [part_replace, hpart, Option.map_some, if_pos hname.symm, Option.bind_some]

theorem part_replace_of_ne {updated : Section} {name : Text} (h : name ≠ updated.name) :
    (edition.replace updated).part? name = edition.part? name := by
  rw [part_replace]
  cases hpart : edition.part? name with
  | none => rfl
  | some part => rw [Option.map_some, if_neg ((part_eq_some hpart).2 ▸ h)]

theorem value_replace_of_ne {updated : Section} {name : Text} (h : name ≠ updated.name)
    (key : Text) : (edition.replace updated).value? name key = edition.value? name key := by
  unfold value?
  rw [part_replace_of_ne h]

theorem map_valueIn_cons {first : Text} (hfirst : edition.part? first = none) (data : Value)
    (rest : List (Text × Value)) (name key : Text) :
    ((edition.value? name key).map fun old =>
      (Schema.valueIn? ((first, data) :: rest) name key).getD old) =
    (edition.value? name key).map fun old => (Schema.valueIn? rest name key).getD old := by
  by_cases hname : name = first
  · have hnone : edition.value? name key = none := by
      unfold value?
      rw [hname, hfirst]
      rfl
    rw [hnone]
    rfl
  · rw [Schema.valueIn_cons_of_ne hname]

/-- A table for a section says of it what an update with the table made of it, as long as nothing
comes later. -/
theorem map_valueIn_replace {part updated : Section} (hpart : edition.part? part.name = some part)
    (hname : updated.name = part.name) {settings : List (Text × Value)} {notes : Journal}
    (hupdate : part.update settings = (.ok updated, notes)) (hkeys : (settings.map (·.1)).Nodup)
    {rest : List (Text × Value)} (hrest : part.name ∉ rest.map (·.1)) (name key : Text) :
    (((edition.replace updated).value? name key).map fun old =>
      (Schema.valueIn? rest name key).getD old) =
    (edition.value? name key).map fun old =>
      (Schema.valueIn? ((part.name, .table settings) :: rest) name key).getD old := by
  by_cases hsame : name = part.name
  · rw [hsame, value_replace_self hpart hname, Schema.valueIn_cons_self,
      Schema.valueIn_of_not_mem hrest, Section.value_update hupdate hkeys]
    unfold value?
    rw [hpart, Option.bind_some]
    exact Option.map_id_apply' ..
  · rw [value_replace_of_ne (hname.symm ▸ hsame), Schema.valueIn_cons_of_ne hsame]

theorem IsSound.value_absorb {after : Edition} (h : edition.IsSound)
    {extra later entries : List (Text × Value)} {notes : Journal}
    (habsorb : edition.absorb extra entries = (.ok (after, later), notes))
    (hnames : (entries.map (·.1)).Nodup)
    (hkeys : ∀ entry ∈ entries, ∀ settings, entry.2 = .table settings →
      (settings.map (·.1)).Nodup) (name key : Text) :
    after.value? name key =
      (edition.value? name key).map fun old => (Schema.valueIn? entries name key).getD old := by
  have habsorbs := absorbs_of_absorb habsorb
  clear habsorb
  induction habsorbs with
  | nil => exact (Option.map_id_apply' ..).symm
  | version _ ih =>
      rw [List.map_cons, List.nodup_cons] at hnames
      rw [List.forall_mem_cons] at hkeys
      rw [map_valueIn_cons h.part_version]
      exact ih h hnames.2 hkeys.2
  | unknown _ hpart _ ih =>
      rw [List.map_cons, List.nodup_cons] at hnames
      rw [List.forall_mem_cons] at hkeys
      rw [map_valueIn_cons hpart]
      exact ih h hnames.2 hkeys.2
  | @table _ _ _ _ _ settings _ _ _ _ _ hpart hupdate _ ih =>
      rw [List.map_cons, List.nodup_cons] at hnames
      rw [List.forall_mem_cons] at hkeys
      have hupdated := (h.part (part_eq_some hpart).1).update hupdate
      -- No later entry is for the same section, so what the update made of it stays.
      rw [ih (h.replace hupdated) hnames.2 hkeys.2]
      exact map_valueIn_replace hpart (Section.name_of_update hupdate) hupdate
        (hkeys.1 settings rfl) hnames.1 name key

theorem IsSound.allows_of_none (h : edition.IsSound) {name : Text}
    (hpart : edition.part? name = none) (data : Value) : Schema.Allows (name, data) := by
  intro schema hschema
  rw [h.lookup_sections, hpart] at hschema
  cases hschema

theorem IsSound.allows_table_iff (h : edition.IsSound) {part : Section}
    (hpart : edition.part? part.name = some part) {settings : List (Text × Value)} :
    Schema.Allows (part.name, .table settings) ↔ (part.update settings).1.isOk = true := by
  rw [(h.part (part_eq_some hpart).1).isOk_update]
  unfold Schema.Allows
  rw [h.lookup_sections, hpart]
  simp

theorem IsSound.not_allows_of_ne_table (h : edition.IsSound) {part : Section}
    (hpart : edition.part? part.name = some part) {data : Value}
    (hdata : ∀ settings, data ≠ .table settings) : ¬ Schema.Allows (part.name, data) := by
  intro hallows
  have hschema : Schema.sections.lookup part.name = some part.schema := by
    rw [h.lookup_sections, hpart]
    rfl
  rcases hallows part.schema hschema with ⟨settings, heq, _⟩
  exact hdata settings heq

theorem IsSound.isOk_absorb (h : edition.IsSound) {extra entries : List (Text × Value)} :
    (edition.absorb extra entries).1.isOk = true ↔ ∀ entry ∈ entries, Schema.Allows entry := by
  induction entries generalizing edition extra with
  | nil => exact ⟨fun _ _ hentry => absurd hentry List.not_mem_nil, fun _ => rfl⟩
  | cons entry rest ih =>
      rcases entry with ⟨name, data⟩
      rw [List.forall_mem_cons, Edition.absorb]
      cases hpart : edition.part? name with
      | none =>
          rw [and_iff_right (h.allows_of_none hpart data)]
          split
          · exact ih h
          · exact ih h
      | some part =>
          rcases part_eq_some hpart with ⟨hmem, rfl⟩
          rw [if_neg (h.part hmem).name_ne_versionKey]
          dsimp only
          split
          · rename_i settings
            rw [h.allows_table_iff hpart]
            rcases hupdate : part.update settings with ⟨result, notes⟩
            cases result with
            | error fault =>
                constructor
                · intro hok
                  cases hok
                · intro hok
                  cases hok.1
            | ok updated =>
                -- The rest meets the updated edition, but what is allowed rests on the schema alone.
                show ((edition.replace updated).absorb extra rest).1.isOk = true ↔ _
                rw [ih (h.replace ((h.part hmem).update hupdate))]
                exact (and_iff_right rfl).symm
          · rename_i hdata
            constructor
            · intro hok
              cases hok
            · intro hall
              exact absurd hall.1 (h.not_allows_of_ne_table hpart hdata)

/-!
# A whole file
-/

theorem isOk_ofEntries {entries : List (Text × Value)} :
    (ofEntries entries).1.isOk = true ↔ ∀ entry ∈ entries, Schema.Allows entry :=
  isSound_fresh.isOk_absorb

theorem exists_ofEntries {entries : List (Text × Value)}
    (h : ∀ entry ∈ entries, Schema.Allows entry) :
    ∃ edition extra notes, ofEntries entries = (.ok (edition, extra), notes) := by
  rcases exists_of_isOk (isOk_ofEntries.mpr h) with ⟨made, notes, hmade⟩
  exact ⟨made.1, made.2, notes, hmade⟩

theorem value_fresh (name key : Text) :
    fresh.value? name key = (Schema.field? name key).map (·.default) := by
  unfold value? Schema.field?
  rw [isSound_fresh.lookup_sections]
  cases hpart : fresh.part? name with
  | none => rfl
  | some part =>
      rcases List.mem_map.mp (part_eq_some hpart).1 with ⟨entry, _, rfl⟩
      rw [Option.map_some, Option.bind_some, Option.bind_some, Section.lookup_schema]
      unfold Section.value?
      cases hsetting : (Section.fresh entry.1 entry.2).setting? key with
      | none => rfl
      | some setting =>
          rcases List.mem_map.mp (List.mem_of_find?_eq_some hsetting) with ⟨keyed, _, rfl⟩
          rfl

end Edition

end ContainerDesk
