import ContainerDesk.Proofs.Settings.Section
import ContainerDesk.Settings.Store

/-!
# Sound editions

An edition is sound when it has the sections of the schema in order, all of them sound.
What a file can hold never makes another edition of a sound one.

The tables of a sound edition, behind unknown sections, are taken back as they are.
-/

namespace ContainerDesk

namespace Schema

/-- Is the name neither that of the version nor that of a section? -/
def isUnknown (name : Text) : Bool :=
  name ≠ versionKey && (sections.lookup name).isNone

theorem isUnknown_eq_true {name : Text} :
    isUnknown name = true ↔ name ≠ versionKey ∧ name ∉ sections.map (·.1) := by
  have hnone : (sections.lookup name).isNone = true ↔ name ∉ sections.map (·.1) := by
    constructor
    · intro h hmem
      rcases List.mem_map.mp hmem with ⟨entry, hentry, rfl⟩
      rw [lookup_of_mem nodup_names hentry] at h
      cases h
    · intro h
      rw [lookup_of_not_mem h]
      rfl
  unfold isUnknown
  rw [Bool.and_eq_true, decide_eq_true_eq, hnone]

end Schema

namespace Edition

/-- Does the edition have the sections of the schema in order, with accepted values? -/
structure IsSound (edition : Edition) : Prop where
  schema : (edition.map fun part => (part.name, part.schema)) = Schema.sections
  accepts : ∀ part ∈ edition, ∀ setting ∈ part.settings, setting.field.Accepts setting.value

namespace IsSound

variable {edition : Edition}

theorem part (h : edition.IsSound) {part : Section} (hpart : part ∈ edition) : part.IsSound where
  schema := h.schema ▸ List.mem_map.mpr ⟨part, hpart, rfl⟩
  accepts := h.accepts part hpart

theorem names (h : edition.IsSound) : edition.map (·.name) = Schema.sections.map (·.1) := by
  rw [← h.schema, List.map_map]
  rfl

theorem nodup_names (h : edition.IsSound) : (edition.map (·.name)).Nodup := by
  rw [h.names]
  exact Schema.nodup_names

end IsSound

theorem isSound_fresh : fresh.IsSound := by
  constructor
  · unfold fresh
    rw [List.map_map]
    conv => rhs; rw [← List.map_id Schema.sections]
    apply List.map_congr_left
    intro entry _
    exact Prod.ext rfl (Section.schema_fresh entry.1 entry.2)
  · intro part hpart
    rcases List.mem_map.mp hpart with ⟨entry, hentry, rfl⟩
    exact (Section.isSound_fresh hentry).accepts

/-!
# Sections of an edition
-/

theorem part_eq_some {edition : Edition} {name : Text} {part : Section}
    (h : edition.part? name = some part) : part ∈ edition ∧ part.name = name :=
  ⟨List.mem_of_find?_eq_some h, by simpa using List.find?_some h⟩

theorem part_eq_none {edition : Edition} {name : Text} :
    edition.part? name = none ↔ name ∉ edition.map (·.name) := by
  unfold part?
  rw [List.find?_eq_none]
  constructor
  · intro h hmem
    rcases List.mem_map.mp hmem with ⟨part, hpart, rfl⟩
    exact h part hpart (by simp)
  · intro h part hpart hname
    exact h (List.mem_map.mpr ⟨part, hpart, by simpa using hname⟩)

theorem names_replace (edition : Edition) (part : Section) :
    (edition.replace part).map (·.name) = edition.map (·.name) := by
  unfold replace
  rw [List.map_map]
  apply List.map_congr_left
  intro old _
  by_cases h : old.name = part.name
  · simp [h]
  · simp [h]

theorem schema_eq_of_name {part other : Section} (hpart : part.IsSound) (hother : other.IsSound)
    (hname : part.name = other.name) : part.schema = other.schema := by
  have hfirst := lookup_of_mem Schema.nodup_names hpart.schema
  have hsecond := lookup_of_mem Schema.nodup_names hother.schema
  rw [hname, hsecond] at hfirst
  exact (Option.some.inj hfirst).symm

theorem IsSound.replace {edition : Edition} (h : edition.IsSound) {part : Section}
    (hpart : part.IsSound) : (edition.replace part).IsSound := by
  constructor
  · rw [← h.schema]
    unfold Edition.replace
    rw [List.map_map]
    apply List.map_congr_left
    intro old hold
    by_cases hname : old.name = part.name
    · simp [hname, schema_eq_of_name (h.part hold) hpart hname]
    · simp [hname]
  · intro other hother
    rcases List.mem_map.mp hother with ⟨old, hold, rfl⟩
    by_cases hname : old.name = part.name
    · rw [if_pos hname]
      exact hpart.accepts
    · rw [if_neg hname]
      exact h.accepts old hold

/-!
# Entries of a file
-/

theorem IsSound.isUnknown_of_none {edition : Edition} (h : edition.IsSound) {name : Text}
    (hversion : name ≠ Schema.versionKey) (hnone : edition.part? name = none) :
    Schema.isUnknown name = true :=
  Schema.isUnknown_eq_true.mpr ⟨hversion, h.names ▸ part_eq_none.mp hnone⟩

theorem IsSound.isUnknown_of_some {edition : Edition} (h : edition.IsSound) {name : Text}
    {part : Section} (hsome : edition.part? name = some part) : Schema.isUnknown name = false := by
  rw [Bool.eq_false_iff]
  intro hunknown
  have hnames := (Schema.isUnknown_eq_true.mp hunknown).2
  rw [← h.names] at hnames
  rw [part_eq_none.mpr hnames] at hsome
  cases hsome

/-- Are entries taken in one by one, the version passed over, the unknown ones put aside and the
tables given to their sections? -/
inductive Absorbs : Edition → List (Text × Value) → List (Text × Value) → Edition →
    List (Text × Value) → Journal → Prop where
  | nil {edition : Edition} {extra : List (Text × Value)} : Absorbs edition extra [] edition extra []
  | version {edition after : Edition} {extra rest later : List (Text × Value)} {data : Value}
      {notes : Journal} (hrest : Absorbs edition extra rest after later notes) :
      Absorbs edition extra ((Schema.versionKey, data) :: rest) after later notes
  | unknown {edition after : Edition} {extra rest later : List (Text × Value)} {name : Text}
      {data : Value} {notes : Journal} (hversion : name ≠ Schema.versionKey)
      (hpart : edition.part? name = none)
      (hrest : Absorbs edition (extra ++ [(name, data)]) rest after later notes) :
      Absorbs edition extra ((name, data) :: rest) after later notes
  | table {edition after : Edition} {extra rest later settings : List (Text × Value)}
      {part updated : Section} {partNotes notes : Journal} (hversion : part.name ≠ Schema.versionKey)
      (hpart : edition.part? part.name = some part)
      (hupdate : part.update settings = (.ok updated, partNotes))
      (hrest : Absorbs (edition.replace updated) extra rest after later notes) :
      Absorbs edition extra ((part.name, .table settings) :: rest) after later (partNotes ++ notes)

theorem absorbs_of_absorb {edition after : Edition} {extra later entries : List (Text × Value)}
    {notes : Journal} (h : edition.absorb extra entries = (.ok (after, later), notes)) :
    Absorbs edition extra entries after later notes := by
  induction entries generalizing edition extra notes with
  | nil =>
      cases h
      exact .nil
  | cons entry rest ih =>
      rcases entry with ⟨name, data⟩
      rw [Edition.absorb] at h
      split at h
      · rename_i hversion
        rw [hversion]
        exact .version (ih h)
      · rename_i hversion
        split at h
        · rename_i hpart
          exact .unknown hversion hpart (ih h)
        · rename_i part hpart
          split at h
          · split at h
            · cases h
            · rename_i updated partNotes hupdate
              rcases hrest : (edition.replace updated).absorb extra rest with ⟨result, restNotes⟩
              rw [hrest] at h
              cases h
              rcases part_eq_some hpart with ⟨_, rfl⟩
              exact .table hversion hpart hupdate (ih hrest)
          · cases h

theorem IsSound.absorb {edition after : Edition} (h : edition.IsSound)
    {extra later entries : List (Text × Value)} {notes : Journal}
    (habsorb : edition.absorb extra entries = (.ok (after, later), notes)) :
    after.IsSound ∧ later = extra ++ entries.filter fun entry => Schema.isUnknown entry.1 := by
  have habsorbs := absorbs_of_absorb habsorb
  clear habsorb
  induction habsorbs with
  | nil => exact ⟨h, by simp⟩
  | version _ ih =>
      rw [List.filter_cons_of_neg (by simp [Schema.isUnknown])]
      exact ih h
  | @unknown _ _ _ rest _ name data _ hversion hpart _ ih =>
      have hkept : ((name, data) :: rest).filter (fun entry => Schema.isUnknown entry.1) =
          (name, data) :: rest.filter fun entry => Schema.isUnknown entry.1 :=
        List.filter_cons_of_pos (h.isUnknown_of_none hversion hpart)
      rcases ih h with ⟨hafter, hlater⟩
      refine ⟨hafter, ?_⟩
      rw [hlater, hkept, List.append_assoc, List.singleton_append]
  | table _ hpart hupdate _ ih =>
      rw [List.filter_cons_of_neg (by simp [h.isUnknown_of_some hpart])]
      exact ih (h.replace ((h.part (part_eq_some hpart).1).update hupdate))

theorem absorb_unknown {edition : Edition} (h : edition.IsSound)
    {front : List (Text × Value)} (hfront : ∀ entry ∈ front, Schema.isUnknown entry.1 = true)
    (extra rest : List (Text × Value)) :
    edition.absorb extra (front ++ rest) = edition.absorb (extra ++ front) rest := by
  induction front generalizing extra with
  | nil => rw [List.nil_append, List.append_nil]
  | cons entry front ih =>
      rcases entry with ⟨name, data⟩
      rcases Schema.isUnknown_eq_true.mp (hfront (name, data) List.mem_cons_self) with
        ⟨hversion, hname⟩
      rw [← h.names] at hname
      rw [List.cons_append, absorb, if_neg hversion, part_eq_none.mpr hname]
      dsimp only
      rw [ih (fun other hother => hfront other (List.mem_cons_of_mem _ hother)),
        List.append_assoc, List.singleton_append]

def tables (edition : Edition) : List (Text × Value) :=
  edition.map fun part => (part.name, .table part.entries)

theorem part_append {front : Edition} {part : Section} (rest : Edition)
    (hfront : part.name ∉ front.map (·.name)) :
    part? (front ++ part :: rest) part.name = some part := by
  have hnone : front.find? (fun other => decide (other.name = part.name)) = none :=
    part_eq_none.mpr hfront
  unfold part?
  rw [List.find?_append, hnone]
  simp

theorem replace_append {front rest : Edition} {old part : Section} (hname : old.name = part.name)
    (hfront : part.name ∉ front.map (·.name)) (hrest : part.name ∉ rest.map (·.name)) :
    replace (front ++ old :: rest) part = front ++ part :: rest := by
  have hkeep : ∀ {others : Edition}, part.name ∉ others.map (·.name) →
      others.map (fun old => if old.name = part.name then part else old) = others := by
    intro others hothers
    conv => rhs; rw [← List.map_id others]
    apply List.map_congr_left
    intro other hother
    have hne : other.name ≠ part.name :=
      fun heq => hothers (heq ▸ List.mem_map.mpr ⟨other, hother, rfl⟩)
    rw [if_neg hne]
    rfl
  unfold replace
  rw [List.map_append, List.map_cons, hkeep hfront, hkeep hrest, if_pos hname]

/-- The sections that are still to come take the values of those in the file, one by one. -/
theorem absorb_tables (front pending : Edition) {rest : Edition}
    (hrest : ∀ part ∈ rest, part.IsSound)
    (hsame : (pending.map fun part => (part.name, part.schema)) =
      rest.map fun part => (part.name, part.schema))
    (hnames : ((front ++ pending).map (·.name)).Nodup) (extra : List (Text × Value)) :
    absorb (front ++ pending) extra (tables rest) = (.ok (front ++ rest, extra), []) := by
  induction rest generalizing front pending with
  | nil =>
      rw [List.map_nil, List.map_eq_nil_iff] at hsame
      rw [hsame]
      rfl
  | cons part rest ih =>
      cases pending with
      | nil => cases hsame
      | cons old pending =>
          rw [List.map_cons, List.map_cons, List.cons.injEq, Prod.mk.injEq] at hsame
          rcases hsame with ⟨⟨hname, hschema⟩, hsame⟩
          have hpart := hrest part List.mem_cons_self
          rw [List.map_append, List.map_cons, hname] at hnames
          rcases List.nodup_append.mp hnames with ⟨_, hwaiting, hapart⟩
          have hfront : part.name ∉ front.map (·.name) :=
            fun hmem => hapart _ hmem _ List.mem_cons_self rfl
          have hpending : part.name ∉ pending.map (·.name) := (List.nodup_cons.mp hwaiting).1
          -- The section that has taken its table joins those in front.
          have hlater : absorb (front ++ [part] ++ pending) extra (tables rest) =
              (.ok (front ++ [part] ++ rest, extra), []) := by
            apply ih _ _ (fun other hother => hrest other (List.mem_cons_of_mem _ hother)) hsame
            rw [List.append_assoc, List.map_append]
            exact hnames
          rw [List.append_assoc, List.append_assoc, List.singleton_append,
            List.singleton_append] at hlater
          rw [tables, List.map_cons, absorb, if_neg hpart.name_ne_versionKey, ← hname,
            part_append _ (hname ▸ hfront)]
          dsimp only
          rw [hpart.update_entries hname hschema]
          dsimp only
          rw [replace_append hname hfront hpending]
          show (((front ++ part :: pending).absorb extra (tables rest)).1,
            [] ++ ((front ++ part :: pending).absorb extra (tables rest)).2) = _
          rw [hlater]
          rfl

/-- A sound edition comes back from its tables behind unknown sections, and those as well. -/
theorem IsSound.ofEntries {edition : Edition} (h : edition.IsSound)
    {extra : List (Text × Value)} (hextra : ∀ entry ∈ extra, Schema.isUnknown entry.1 = true)
    (version : Value) :
    Edition.ofEntries ((Schema.versionKey, version) :: extra ++ tables edition) =
      (.ok (edition, extra), []) := by
  have htables := absorb_tables [] fresh (fun part => h.part)
    (isSound_fresh.schema.trans h.schema.symm) isSound_fresh.nodup_names extra
  rw [Edition.ofEntries, List.cons_append, Edition.absorb, if_pos rfl,
    absorb_unknown isSound_fresh hextra]
  exact htables

end Edition

end ContainerDesk
