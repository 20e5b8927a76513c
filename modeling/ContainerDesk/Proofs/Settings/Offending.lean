import ContainerDesk.Proofs.Settings.Taking
import ContainerDesk.Proofs.Value.Shown

/-!
# What turns a settings file down

All values of a file can be shown, and then every check decides: a refused value always comes
with a reason.  So the fault of a file can be said by its entries alone.  It is that of the
first entry that may not stand there, which is no table, or one with a value that its field
does not admit; then the first of these is named.
-/

namespace ContainerDesk

/-!
# Checks decide
-/

/-- Can what the check names in a complaint be shown: its bounds, its choices? -/
def Check.CanComplain : Check → Prop
  | .inRange low high => low.natAbs < 10 ^ digitLimit ∧ high.natAbs < 10 ^ digitLimit
  | .oneOf allowed => (Value.list allowed).CanShow
  | .ofKind _ | .address | .listOf _ => True

theorem Check.CanComplain.decides {check : Check} (h : check.CanComplain) {value : Value}
    (hshown : value.CanShow) : ∃ complaint, check.complaint value = .ok complaint := by
  cases check with
  | ofKind kind => exact ⟨_, rfl⟩
  | inRange low high =>
      unfold complaint
      dsimp only
      split
      · split
        · exact ⟨_, rfl⟩
        · rcases hshown with ⟨shown, hshown⟩
          rw [Value.quoted] at hshown
          rw [hshown, integerNumeral_of_lt h.1, integerNumeral_of_lt h.2]
          exact ⟨_, rfl⟩
      · exact ⟨_, rfl⟩
  | oneOf allowed =>
      rcases hshown with ⟨shown, hshown⟩
      rcases h with ⟨choices, hchoices⟩
      unfold complaint
      dsimp only
      rw [hshown, hchoices]
      split
      · exact ⟨_, rfl⟩
      · exact ⟨_, rfl⟩
  | address =>
      unfold complaint
      dsimp only
      split
      · split
        · exact ⟨_, rfl⟩
        · exact ⟨_, rfl⟩
      · exact ⟨_, rfl⟩
  | listOf kind =>
      unfold complaint
      dsimp only
      split
      · exact ⟨_, rfl⟩
      · exact ⟨_, rfl⟩

theorem firstComplaint_decides {value : Value} (hshown : value.CanShow) {checks : List Check}
    (h : ∀ check ∈ checks, check.CanComplain) :
    ∃ complaint, firstComplaint value checks = .ok complaint := by
  induction checks with
  | nil => exact ⟨none, rfl⟩
  | cons check rest ih =>
      rw [List.forall_mem_cons] at h
      rcases h.1.decides hshown with ⟨complaint, hcomplaint⟩
      rw [firstComplaint, hcomplaint]
      cases complaint with
      | none => exact ih h.2
      | some reason => exact ⟨some reason, rfl⟩

namespace Field

def CanComplain (field : Field) : Prop :=
  ∀ check ∈ field.checks, check.CanComplain

variable {field : Field}

theorem CanComplain.decides (h : field.CanComplain) {value : Value} (hshown : value.CanShow) :
    ∃ complaint, field.complaint value = .ok complaint :=
  firstComplaint_decides hshown h

theorem canComplain_single {default : Value} {check : Check} (h : check.CanComplain) :
    CanComplain ⟨default, [check]⟩ := by
  intro other hother
  rw [List.mem_singleton.mp hother]
  exact h

theorem HasForm.canComplain (h : field.HasForm) : field.CanComplain := by
  have hshort {n : Int} (hn : n.natAbs < 10 ^ 5) : n.natAbs < 10 ^ digitLimit :=
    Nat.lt_of_lt_of_le hn (Nat.pow_le_pow_right (by decide) (by decide))
  cases h with
  | range h hlow hhigh => exact canComplain_single ⟨hshort hlow, hshort hhigh⟩
  | flag default => exact canComplain_single trivial
  | choice h =>
      apply canComplain_single
      apply Value.canShow_list.mpr
      intro item hitem
      rcases List.mem_map.mp hitem with ⟨t, _, rfl⟩
      exact ⟨t.quoted, rfl⟩
  | address h => exact canComplain_single trivial
  | integers => exact canComplain_single trivial

end Field

namespace Section

def CanComplain (part : Section) : Prop :=
  ∀ setting ∈ part.settings, setting.field.CanComplain

variable {part : Section}

theorem canComplain_of_schema (h : (part.name, part.schema) ∈ Schema.sections) :
    part.CanComplain :=
  fun _ hsetting => (Schema.hasForm_of_mem h (mem_schema hsetting)).canComplain

theorem check_of_complaint {key reason : Text} {setting : Setting}
    (h : part.setting? key = some setting) {value : Value} (hshown : value.CanShow)
    (hcomplaint : setting.field.complaint value = .ok (some reason)) :
    part.check key value = .error (.invalidSetting (part.settingName key) value reason) := by
  rcases hshown with ⟨shown, hshown⟩
  rw [check_eq, lookup_schema, h, Option.map_some]
  dsimp only
  rw [hcomplaint]
  unfold Fault.refused
  dsimp only
  rw [hshown]

theorem CanComplain.exists_complaint (h : part.CanComplain) {entry : Text × Value}
    (hshown : entry.2.CanShow) (hrefuses : part.Refuses entry) :
    ∃ setting reason, part.setting? entry.1 = some setting ∧
      setting.field.complaint entry.2 = .ok (some reason) ∧
      part.check entry.1 entry.2 =
        .error (.invalidSetting (part.settingName entry.1) entry.2 reason) := by
  rcases hrefuses with ⟨setting, hsetting, hrefused⟩
  have hmem : setting ∈ part.settings := List.mem_of_find?_eq_some hsetting
  rcases (h setting hmem).decides hshown with ⟨complaint, hcomplaint⟩
  cases complaint with
  | none => exact absurd hcomplaint hrefused
  | some reason =>
      exact ⟨setting, reason, hsetting, hcomplaint, check_of_complaint hsetting hshown hcomplaint⟩

end Section

/-!
# Entries that may not stand in a file
-/

namespace Schema

/-- The faults by which an entry of a settings file is turned down. -/
inductive Offends : Text × Value → Fault → Prop where
  | noTable {name : Text} {schema : SectionSchema} {data : Value}
      (hschema : sections.lookup name = some schema)
      (hdata : ∀ settings, data ≠ .table settings) :
      Offends (name, data) (.invalidSetting name data (Text.of "section must be an object"))
  | setting {name key reason : Text} {schema : SectionSchema} {field : Field} {value : Value}
      {front rest : List (Text × Value)} (hschema : sections.lookup name = some schema)
      (hfront : ∀ other ∈ front, ∀ field, schema.lookup other.1 = some field →
        field.Admits other.2)
      (hfield : schema.lookup key = some field) (hvalue : ¬ field.Admits value)
      (hreason : field.complaint value = .ok (some reason)) :
      Offends (name, .table (front ++ (key, value) :: rest))
        (.invalidSetting (name ++ Text.of "." ++ key) value reason)

theorem exists_of_not_allows {name : Text} {data : Value} (h : ¬ Allows (name, data)) :
    ∃ schema, sections.lookup name = some schema ∧
      ((∀ settings, data ≠ .table settings) ∨ ∃ settings, data = .table settings ∧
        ∃ setting ∈ settings, ∃ field, schema.lookup setting.1 = some field ∧
          ¬ field.Admits setting.2) := by
  unfold Allows at h
  push Not at h
  rcases h with ⟨schema, hschema, hdata⟩
  refine ⟨schema, hschema, ?_⟩
  by_cases htable : ∃ settings, data = .table settings
  · rcases htable with ⟨settings, rfl⟩
    exact .inr ⟨settings, rfl, hdata settings rfl⟩
  · exact .inl fun settings heq => htable ⟨settings, heq⟩

end Schema

namespace Section

theorem IsSound.exists_offence {part : Section} (h : part.IsSound)
    {settings : List (Text × Value)} (hshown : ∀ setting ∈ settings, setting.2.CanShow)
    (hrefuses : ∃ setting ∈ settings, part.Refuses setting) :
    ∃ fault notes, Schema.Offends (part.name, .table settings) fault ∧
      part.update settings = (.error fault, notes) := by
  rcases exists_first hrefuses with ⟨front, ⟨key, value⟩, rest, rfl, hfront, hsetting⟩
  have hvalue : value.CanShow := hshown (key, value) (by simp)
  rcases (canComplain_of_schema h.schema).exists_complaint hvalue hsetting with
    ⟨found, reason, hfound, hreason, hcheck⟩
  have hschema : Schema.sections.lookup part.name = some part.schema :=
    lookup_of_mem Schema.nodup_names h.schema
  have hfield : part.schema.lookup key = some found.field := by
    rw [lookup_schema, hfound]
    rfl
  have hrefused : ¬ found.field.Admits value := by
    intro hadmits
    apply h.not_refuses_iff.mpr _ hsetting
    intro field hsame
    rw [hfield] at hsame
    exact Option.some.inj hsame ▸ hadmits
  exact ⟨_, _, .setting hschema (fun other hother => h.not_refuses_iff.mp (hfront other hother))
    hfield hrefused hreason, update_of_refuses hfront hsetting hcheck⟩

end Section

namespace Edition

variable {edition after : Edition} {extra later front : List (Text × Value)} {notes : Journal}

/-- Entries that are taken in leave the rest to the edition that they made. -/
theorem absorb_append (h : edition.absorb extra front = (.ok (after, later), notes))
    (rest : List (Text × Value)) :
    edition.absorb extra (front ++ rest) =
      ((after.absorb later rest).1, notes ++ (after.absorb later rest).2) := by
  have habsorbs := absorbs_of_absorb h
  clear h
  induction habsorbs with
  | nil => rfl
  | version _ ih => rw [List.cons_append, absorb, if_pos rfl, ih]
  | unknown hversion hpart _ ih =>
      rw [List.cons_append, absorb, if_neg hversion, hpart]
      exact ih
  | table hversion hpart hupdate _ ih =>
      rw [List.cons_append, absorb, if_neg hversion, hpart]
      dsimp only
      rw [hupdate]
      dsimp only
      rw [ih, List.append_assoc]

theorem IsSound.exists_offence (h : edition.IsSound) {entry : Text × Value}
    (hshown : entry.2.CanShow) (hentry : ¬ Schema.Allows entry) :
    ∃ fault, Schema.Offends entry fault ∧
      ∀ extra rest, (edition.absorb extra (entry :: rest)).1 = .error fault := by
  rcases entry with ⟨name, data⟩
  rcases Schema.exists_of_not_allows hentry with ⟨schema, hschema, hdata⟩
  have hlookup := h.lookup_sections name
  rw [hschema] at hlookup
  rcases Option.map_eq_some_iff.mp hlookup.symm with ⟨part, hpart, rfl⟩
  rcases part_eq_some hpart with ⟨hmem, rfl⟩
  have hversion := (h.part hmem).name_ne_versionKey
  rcases hdata with hdata | ⟨settings, rfl, hsettings⟩
  · refine ⟨_, .noTable hschema hdata, ?_⟩
    intro extra rest
    rw [Edition.absorb, if_neg hversion, hpart]
    dsimp only
    split
    · exact absurd rfl (hdata _)
    · rcases hshown with ⟨shown, hshown⟩
      unfold Fault.refused
      rw [hshown]
  · have hrefuses : ∃ setting ∈ settings, part.Refuses setting := by
      rcases hsettings with ⟨setting, hsetting, hrefused⟩
      exact ⟨setting, hsetting, (h.part hmem).refuses_iff.mpr hrefused⟩
    rcases (h.part hmem).exists_offence (Value.canShow_table.mp hshown) hrefuses with
      ⟨fault, notes, hoffends, hupdate⟩
    refine ⟨fault, hoffends, ?_⟩
    intro extra rest
    rw [Edition.absorb, if_neg hversion, hpart]
    dsimp only
    rw [hupdate]

/-- The first entry that may not stand in a file ends it with its fault. -/
theorem exists_offence_ofEntries {entry : Text × Value} (hfront : ∀ other ∈ front,
    Schema.Allows other) (hshown : entry.2.CanShow) (hentry : ¬ Schema.Allows entry)
    (rest : List (Text × Value)) :
    ∃ fault, Schema.Offends entry fault ∧
      (ofEntries (front ++ entry :: rest)).1 = .error fault := by
  rcases exists_ofEntries hfront with ⟨after, later, notes, hmade⟩
  have hafter : after.IsSound := (isSound_fresh.absorb hmade).1
  rcases hafter.exists_offence hshown hentry with ⟨fault, hoffends, hends⟩
  refine ⟨fault, hoffends, ?_⟩
  unfold ofEntries
  rw [absorb_append hmade]
  exact hends later rest

theorem exists_offends_of_ofEntries {entries : List (Text × Value)}
    (hshown : ∀ entry ∈ entries, entry.2.CanShow) {fault : Fault}
    (h : ofEntries entries = (.error fault, notes)) :
    ∃ entry ∈ entries, Schema.Offends entry fault := by
  have hrefused : ∃ entry ∈ entries, ¬ Schema.Allows entry := by
    apply Classical.byContradiction
    intro hnone
    rcases exists_ofEntries fun entry hentry =>
      Classical.not_not.mp fun hrefused => hnone ⟨entry, hentry, hrefused⟩ with ⟨_, _, _, hok⟩
    rw [h] at hok
    cases hok
  rcases exists_first hrefused with ⟨front, entry, rest, rfl, hfront, hentry⟩
  have hmem : entry ∈ front ++ entry :: rest := by simp
  rcases exists_offence_ofEntries (fun other hother => Classical.not_not.mp (hfront other hother))
    (hshown entry hmem) hentry rest with ⟨named, hoffends, hnamed⟩
  rw [h] at hnamed
  cases hnamed
  exact ⟨entry, hmem, hoffends⟩

end Edition

end ContainerDesk
