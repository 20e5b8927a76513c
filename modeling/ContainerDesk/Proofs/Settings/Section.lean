import ContainerDesk.Proofs.Settings.Field
import ContainerDesk.Settings.Section

/-!
# Sound sections

A section is sound when it is one of the schema, with exactly its keys and fields, and
each of its values is accepted by its field.  All operations keep sections sound, the
growth of a list by integers included.

The values of a sound section, put into another section of the same schema, make that
section the same.
-/

namespace ContainerDesk

theorem exists_first {α : Type} {P : α → Prop} {items : List α} (h : ∃ item ∈ items, P item) :
    ∃ front item rest, items = front ++ item :: rest ∧ (∀ other ∈ front, ¬ P other) ∧ P item := by
  classical
  have hsome : (items.find? fun item => decide (P item)).isSome = true := by
    simpa [List.find?_isSome] using h
  rcases Option.isSome_iff_exists.mp hsome with ⟨item, hitem⟩
  rcases List.find?_eq_some_iff_append.mp hitem with ⟨hholds, front, rest, hitems, hfront⟩
  exact ⟨front, item, rest, hitems, by simpa using hfront, by simpa using hholds⟩

namespace Section

/-- Is the section one of the schema, and does it hold accepted values only? -/
structure IsSound (part : Section) : Prop where
  schema : (part.name, part.schema) ∈ Schema.sections
  accepts : ∀ setting ∈ part.settings, setting.field.Accepts setting.value

/-!
# Finding settings
-/

theorem name_put (part : Section) (key : Text) (value : Value) :
    (part.put key value).name = part.name := rfl

theorem name_putAll (part : Section) (entries : List (Text × Value)) :
    (part.putAll entries).name = part.name := by
  induction entries generalizing part with
  | nil => rfl
  | cons entry rest ih => exact ih (part.put entry.1 entry.2)

theorem name_of_assign {part after : Section} {key : Text} {value old : Value}
    (h : part.assign key value = .ok (old, after)) : after.name = part.name := by
  unfold assign at h
  split at h
  · cases h
  · split at h
    · cases h
    · cases h
      exact name_put part key value

theorem name_of_append {part after : Section} {key : Text} {item longer : Value}
    (h : part.append key item = .ok (longer, after)) : after.name = part.name := by
  unfold append at h
  split at h
  · cases h
  · cases h
    exact name_put part key _
  · cases h

theorem lookup_schema (part : Section) (key : Text) :
    part.schema.lookup key = (part.setting? key).map (·.field) :=
  lookup_map Setting.key Setting.field part.settings key

/-- Whether a value is accepted depends on the name and the schema of the section only. -/
theorem check_eq (part : Section) (key : Text) (value : Value) :
    part.check key value =
      match part.schema.lookup key with
      | none => .error (.unknownSetting part.name (some key))
      | some field =>
          match field.complaint value with
          | .error fault => .error fault
          | .ok none => .ok ()
          | .ok (some reason) => .error (.refused (part.settingName key) value reason) := by
  rw [lookup_schema]
  unfold check find
  cases part.setting? key with
  | none => rfl
  | some setting => rfl

theorem check_congr {part other : Section} (hname : part.name = other.name)
    (hschema : part.schema = other.schema) (key : Text) (value : Value) :
    part.check key value = other.check key value := by
  rw [check_eq, check_eq, hname, hschema]
  unfold settingName
  rw [hname]

theorem check_eq_ok {part : Section} {key : Text} {value : Value} :
    part.check key value = .ok () ↔
      ∃ field, part.schema.lookup key = some field ∧ field.Accepts value := by
  rw [check_eq]
  cases part.schema.lookup key with
  | none => simp
  | some field =>
      unfold Field.Accepts
      constructor
      · intro h
        refine ⟨field, rfl, ?_⟩
        dsimp only at h
        split at h
        · cases h
        · assumption
        · cases h
      · rintro ⟨_, heq, haccepts⟩
        cases heq
        dsimp only
        rw [haccepts]

theorem mem_schema {part : Section} {setting : Setting} (h : setting ∈ part.settings) :
    (setting.key, setting.field) ∈ part.schema :=
  List.mem_map.mpr ⟨setting, h, rfl⟩

theorem find_eq_ok {part : Section} {key : Text} {setting : Setting}
    (h : part.find key = .ok setting) : setting ∈ part.settings ∧ setting.key = key := by
  unfold find at h
  cases hfound : part.setting? key with
  | none =>
      rw [hfound] at h
      cases h
  | some found =>
      rw [hfound] at h
      cases h
      exact ⟨List.mem_of_find?_eq_some hfound, by simpa using List.find?_some hfound⟩

theorem get_eq_ok {part : Section} {key : Text} {value : Value} (h : part.get key = .ok value) :
    ∃ setting ∈ part.settings, setting.key = key ∧ setting.value = value := by
  unfold get at h
  cases hfound : part.find key with
  | error fault =>
      rw [hfound] at h
      cases h
  | ok setting =>
      rw [hfound] at h
      cases h
      rcases find_eq_ok hfound with ⟨hmem, hkey⟩
      exact ⟨setting, hmem, hkey, rfl⟩

/-!
# Operations
-/

theorem isSound_fresh {entry : Text × SectionSchema} (hentry : entry ∈ Schema.sections) :
    (fresh entry.1 entry.2).IsSound := by
  constructor
  · rw [schema_fresh]
    exact hentry
  · intro setting hsetting
    rcases List.mem_map.mp hsetting with ⟨keyed, hkeyed, rfl⟩
    exact (Schema.hasForm_of_mem hentry hkeyed).accepts_default

namespace IsSound

variable {part : Section}

theorem nodup_keys (h : part.IsSound) : (part.schema.map (·.1)).Nodup :=
  Schema.nodup_keys h.schema

theorem name_ne_versionKey (h : part.IsSound) : part.name ≠ Schema.versionKey := by
  intro heq
  apply Schema.versionKey_not_mem
  rw [← heq]
  exact List.mem_map.mpr ⟨_, h.schema, rfl⟩

theorem hasForm (h : part.IsSound) {setting : Setting} (hmem : setting ∈ part.settings) :
    setting.field.HasForm :=
  Schema.hasForm_of_mem h.schema (mem_schema hmem)

theorem get_of_field (h : part.IsSound) {key : Text} {field : Field}
    (hfield : Schema.field? part.name key = some field) :
    ∃ value, part.get key = .ok value ∧ field.Accepts value := by
  unfold Schema.field? at hfield
  rw [lookup_of_mem Schema.nodup_names h.schema, Option.bind_some, lookup_schema] at hfield
  rcases Option.map_eq_some_iff.mp hfield with ⟨setting, hsetting, rfl⟩
  refine ⟨setting.value, ?_, h.accepts setting (List.mem_of_find?_eq_some hsetting)⟩
  unfold Section.get Section.find
  rw [hsetting]
  rfl

theorem field_eq (h : part.IsSound) {setting other : Setting} (hsetting : setting ∈ part.settings)
    (hother : other ∈ part.settings) (hkey : setting.key = other.key) :
    setting.field = other.field := by
  have hfirst := lookup_of_mem h.nodup_keys (mem_schema hsetting)
  have hsecond := lookup_of_mem h.nodup_keys (mem_schema hother)
  rw [hkey, hsecond] at hfirst
  exact (Option.some.inj hfirst).symm

theorem put (h : part.IsSound) {key : Text} {value : Value}
    (haccepts : ∀ setting ∈ part.settings, setting.key = key → setting.field.Accepts value) :
    (part.put key value).IsSound := by
  constructor
  · rw [schema_put]
    exact h.schema
  · intro setting hsetting
    rcases List.mem_map.mp hsetting with ⟨old, hold, rfl⟩
    by_cases hkey : old.key = key
    · rw [if_pos hkey]
      exact haccepts old hold hkey
    · rw [if_neg hkey]
      exact h.accepts old hold

theorem put_of_check (h : part.IsSound) {key : Text} {value : Value}
    (hcheck : part.check key value = .ok ()) : (part.put key value).IsSound := by
  rcases check_eq_ok.mp hcheck with ⟨field, hlookup, haccepts⟩
  apply h.put
  intro setting hsetting hkey
  have hfield := lookup_of_mem h.nodup_keys (mem_schema hsetting)
  rw [hkey, hlookup] at hfield
  rw [← Option.some.inj hfield]
  exact haccepts

theorem putAll (h : part.IsSound) {entries : List (Text × Value)}
    (hcheck : ∀ entry ∈ entries, part.check entry.1 entry.2 = .ok ()) :
    (part.putAll entries).IsSound := by
  induction entries generalizing part with
  | nil => exact h
  | cons entry rest ih =>
      apply ih (h.put_of_check (hcheck entry List.mem_cons_self))
      intro other hother
      rw [check_congr (name_put part _ _) (schema_put part _ _)]
      exact hcheck other (List.mem_cons_of_mem _ hother)

theorem assign (h : part.IsSound) {key : Text} {value old : Value} {after : Section}
    (hassign : part.assign key value = .ok (old, after)) : after.IsSound := by
  unfold Section.assign at hassign
  split at hassign
  · cases hassign
  · rename_i hcheck
    split at hassign
    · cases hassign
    · cases hassign
      exact h.put_of_check hcheck

theorem append (h : part.IsSound) {key : Text} {n : Int} {longer : Value} {after : Section}
    (happend : part.append key (.int n) = .ok (longer, after)) : after.IsSound := by
  unfold Section.append at happend
  split at happend
  · cases happend
  · rename_i items hget
    cases happend
    rcases get_eq_ok hget with ⟨found, hfound, hkey, hvalue⟩
    apply h.put
    intro setting hsetting hsame
    rw [h.field_eq hsetting hfound (hsame.trans hkey.symm)]
    exact (h.hasForm hfound).accepts_append n (hvalue ▸ h.accepts found hfound)
  · cases happend

theorem reset (h : part.IsSound) : part.reset.IsSound := by
  constructor
  · rw [schema_reset]
    exact h.schema
  · intro setting hsetting
    rcases List.mem_map.mp hsetting with ⟨old, hold, rfl⟩
    exact (h.hasForm hold).accepts_default

end IsSound

/-!
# Updates from a file
-/

def Refuses (part : Section) (entry : Text × Value) : Prop :=
  ∃ setting, part.setting? entry.1 = some setting ∧ ¬ setting.field.Accepts entry.2

def known (part : Section) (entries : List (Text × Value)) : List (Text × Value) :=
  entries.filter fun entry => (part.setting? entry.1).isSome

def ignored (part : Section) (entries : List (Text × Value)) : Journal :=
  (entries.filter fun entry => (part.setting? entry.1).isNone).map fun entry =>
    part.ignoredEntry entry.1

section Updating

variable {part : Section} {entries : List (Text × Value)}

theorem check_of_not_refuses {entry : Text × Value} (h : ¬ part.Refuses entry)
    (hknown : (part.setting? entry.1).isSome = true) : part.check entry.1 entry.2 = .ok () := by
  rcases Option.isSome_iff_exists.mp hknown with ⟨setting, hsetting⟩
  have hfield : part.schema.lookup entry.1 = some setting.field := by
    rw [lookup_schema, hsetting]
    rfl
  have haccepts : setting.field.Accepts entry.2 :=
    Classical.not_not.mp fun hrefused => h ⟨setting, hsetting, hrefused⟩
  exact check_eq_ok.mpr ⟨setting.field, hfield, haccepts⟩

theorem exists_fault_of_refuses {entry : Text × Value} (h : part.Refuses entry) :
    ∃ fault, part.check entry.1 entry.2 = .error fault := by
  rcases h with ⟨setting, hsetting, hrefused⟩
  cases hcheck : part.check entry.1 entry.2 with
  | error fault => exact ⟨fault, rfl⟩
  | ok done =>
      rcases check_eq_ok.mp hcheck with ⟨field, hfield, haccepts⟩
      rw [lookup_schema, hsetting] at hfield
      cases hfield
      exact absurd haccepts hrefused

/-- Entries that are not refused are sifted to those with a key of the section, and the others are
noted, whatever follows. -/
theorem sift_append {front : List (Text × Value)} (h : ∀ entry ∈ front, ¬ part.Refuses entry)
    (rest : List (Text × Value)) :
    part.sift (front ++ rest) =
      ((part.sift rest).1.map (part.known front ++ ·),
        part.ignored front ++ (part.sift rest).2) := by
  induction front with
  | nil =>
      apply Prod.ext
      · cases hrest : (part.sift rest).1 with
        | error fault => exact hrest
        | ok accepted => exact hrest
      · rfl
  | cons entry front ih =>
      rcases entry with ⟨key, value⟩
      rw [List.forall_mem_cons] at h
      rw [List.cons_append, sift, ih h.2]
      cases hsetting : part.setting? key with
      | none =>
          have hknown : part.known ((key, value) :: front) = part.known front :=
            List.filter_cons_of_neg (by simp [hsetting])
          have hignored : part.ignored ((key, value) :: front) =
              part.ignoredEntry key :: part.ignored front := by
            unfold ignored
            rw [List.filter_cons_of_pos (by simp [hsetting])]
            rfl
          rw [hknown, hignored]
          rfl
      | some setting =>
          have hknown : part.known ((key, value) :: front) = (key, value) :: part.known front :=
            List.filter_cons_of_pos (by simp [hsetting])
          have hignored : part.ignored ((key, value) :: front) = part.ignored front := by
            unfold ignored
            rw [List.filter_cons_of_neg (by simp [hsetting])]
          have hcheck : part.check key value = .ok () :=
            check_of_not_refuses h.1 (by simp [hsetting])
          rw [hcheck, hknown, hignored]
          cases (part.sift rest).1 with
          | error fault => rfl
          | ok accepted => rfl

theorem update_of_accepts (h : ∀ entry ∈ entries, ¬ part.Refuses entry) :
    part.update entries = (.ok (part.putAll (part.known entries)), part.ignored entries) := by
  have hsift := sift_append h []
  rw [List.append_nil] at hsift
  rw [update, hsift]
  simp [sift, Except.map]

theorem update_of_refuses {front rest : List (Text × Value)} {entry : Text × Value} {fault : Fault}
    (h : ∀ other ∈ front, ¬ part.Refuses other) (hrefuses : part.Refuses entry)
    (hcheck : part.check entry.1 entry.2 = .error fault) :
    part.update (front ++ entry :: rest) = (.error fault, part.ignored front) := by
  rcases entry with ⟨key, value⟩
  rcases hrefuses with ⟨setting, hsetting, _⟩
  have hentry : part.sift ((key, value) :: rest) = (.error fault, []) := by
    rw [sift, hsetting, hcheck]
  rw [update, sift_append h, hentry]
  simp [Except.map]

/-- An update takes all entries that have a key of the section, or it ends at the first of them that
is refused. -/
theorem update_cases (part : Section) (entries : List (Text × Value)) :
    ((∀ entry ∈ entries, ¬ part.Refuses entry) ∧
      part.update entries = (.ok (part.putAll (part.known entries)), part.ignored entries)) ∨
    ∃ front entry rest fault, entries = front ++ entry :: rest ∧
      (∀ other ∈ front, ¬ part.Refuses other) ∧ part.Refuses entry ∧
      part.check entry.1 entry.2 = .error fault ∧
      part.update entries = (.error fault, part.ignored front) := by
  by_cases h : ∃ entry ∈ entries, part.Refuses entry
  · right
    rcases exists_first h with ⟨front, entry, rest, rfl, hfront, hentry⟩
    rcases exists_fault_of_refuses hentry with ⟨fault, hfault⟩
    exact ⟨front, entry, rest, fault, rfl, hfront, hentry, hfault,
      update_of_refuses hfront hentry hfault⟩
  · left
    have haccepts : ∀ entry ∈ entries, ¬ part.Refuses entry :=
      fun entry hentry hrefuses => h ⟨entry, hentry, hrefuses⟩
    exact ⟨haccepts, update_of_accepts haccepts⟩

theorem update_of_check (h : ∀ entry ∈ entries, part.check entry.1 entry.2 = .ok ()) :
    part.update entries = (.ok (part.putAll entries), []) := by
  have haccepts : ∀ entry ∈ entries, ¬ part.Refuses entry := by
    intro entry hentry hrefuses
    rcases exists_fault_of_refuses hrefuses with ⟨fault, hfault⟩
    rw [h entry hentry] at hfault
    cases hfault
  have hsome : ∀ entry ∈ entries, (part.setting? entry.1).isSome = true := by
    intro entry hentry
    rcases check_eq_ok.mp (h entry hentry) with ⟨field, hfield, _⟩
    rw [lookup_schema] at hfield
    rcases Option.map_eq_some_iff.mp hfield with ⟨setting, hsetting, _⟩
    rw [hsetting]
    rfl
  have hknown : part.known entries = entries := List.filter_eq_self.mpr hsome
  have hignored : part.ignored entries = [] := by
    unfold ignored
    rw [List.filter_eq_nil_iff.mpr, List.map_nil]
    intro entry hentry
    rw [Option.isNone_eq_false_iff.mpr (hsome entry hentry)]
    exact Bool.false_ne_true
  rw [update_of_accepts haccepts, hknown, hignored]

theorem name_of_update {after : Section} {notes : Journal}
    (h : part.update entries = (.ok after, notes)) : after.name = part.name := by
  rcases update_cases part entries with ⟨_, htaken⟩ | ⟨_, _, _, _, _, _, _, _, hrefused⟩
  · rw [htaken] at h
    cases h
    exact name_putAll part _
  · rw [hrefused] at h
    cases h

theorem IsSound.update {after : Section} (h : part.IsSound) {notes : Journal}
    (hupdate : part.update entries = (.ok after, notes)) : after.IsSound := by
  rcases update_cases part entries with ⟨haccepts, htaken⟩ | ⟨_, _, _, _, _, _, _, _, hrefused⟩
  · rw [htaken] at hupdate
    cases hupdate
    apply h.putAll
    intro entry hentry
    rcases List.mem_filter.mp hentry with ⟨hmem, hknown⟩
    exact check_of_not_refuses (haccepts entry hmem) hknown
  · rw [hrefused] at hupdate
    cases hupdate

end Updating

/-!
# Values put into another section
-/

theorem settings_putAll (part : Section) {entries : List (Text × Value)}
    (hkeys : (entries.map (·.1)).Nodup) :
    (part.putAll entries).settings = part.settings.map fun setting =>
      { setting with value := (entries.lookup setting.key).getD setting.value } := by
  induction entries generalizing part with
  | nil => simp [putAll]
  | cons entry rest ih =>
      rcases entry with ⟨key, value⟩
      rw [List.map_cons, List.nodup_cons] at hkeys
      show ((part.put key value).putAll rest).settings = _
      rw [ih _ hkeys.2, put, List.map_map]
      apply List.map_congr_left
      intro setting _
      by_cases hkey : setting.key = key
      · simp [hkey, lookup_of_not_mem hkeys.1]
      · have hb : (setting.key == key) = false := by simpa using hkey
        simp [hkey, List.lookup_cons, hb]

theorem keys_entries (part : Section) : part.entries.map (·.1) = part.schema.map (·.1) := by
  simp [entries, schema, Function.comp_def]

def settled (entries : List (Text × Value)) (keyed : Text × Field) : Setting :=
  ⟨keyed.1, keyed.2, (entries.lookup keyed.1).getD keyed.2.default⟩

theorem settings_eq_settled {part : Section} (hkeys : (part.schema.map (·.1)).Nodup) :
    part.settings = part.schema.map (settled part.entries) := by
  have hentries : (part.entries.map (·.1)).Nodup := by rwa [keys_entries]
  unfold schema
  rw [List.map_map]
  conv => lhs; rw [← List.map_id part.settings]
  apply List.map_congr_left
  intro setting hsetting
  have hmem : (setting.key, setting.value) ∈ part.entries := List.mem_map.mpr ⟨_, hsetting, rfl⟩
  simp [settled, lookup_of_mem hentries hmem]

/-- The values of a section make any section of its schema the same. -/
theorem putAll_entries {part other : Section} (hname : other.name = part.name)
    (hschema : other.schema = part.schema) (hkeys : (part.schema.map (·.1)).Nodup) :
    other.putAll part.entries = part := by
  have hentries : (part.entries.map (·.1)).Nodup := by rwa [keys_entries]
  have hsettings : (other.putAll part.entries).settings = part.settings := by
    rw [settings_putAll other hentries, settings_eq_settled hkeys, ← hschema]
    unfold schema
    rw [List.map_map]
    apply List.map_congr_left
    intro setting hsetting
    have hmem : setting.key ∈ part.entries.map (·.1) := by
      rw [keys_entries, ← hschema]
      exact List.mem_map.mpr ⟨_, mem_schema hsetting, rfl⟩
    rcases List.mem_map.mp hmem with ⟨entry, hentry, hkey⟩
    have hlookup : part.entries.lookup setting.key = some entry.2 :=
      hkey ▸ lookup_of_mem hentries hentry
    simp [settled, hlookup]
  have hput := (name_putAll other part.entries).trans hname
  cases hlater : other.putAll part.entries with
  | mk name settings =>
      rw [hlater] at hsettings hput
      cases part with
      | mk _ _ =>
          cases hput
          cases hsettings
          rfl

theorem IsSound.update_entries {part other : Section} (h : part.IsSound)
    (hname : other.name = part.name) (hschema : other.schema = part.schema) :
    other.update part.entries = (.ok part, []) := by
  have hcheck : ∀ entry ∈ part.entries, other.check entry.1 entry.2 = .ok () := by
    intro entry hentry
    rcases List.mem_map.mp hentry with ⟨setting, hsetting, rfl⟩
    rw [check_congr hname hschema]
    exact check_eq_ok.mpr ⟨setting.field, lookup_of_mem h.nodup_keys (mem_schema hsetting),
      h.accepts setting hsetting⟩
  rw [update_of_check hcheck, putAll_entries hname hschema h.nodup_keys]

theorem IsSound.isReadable {part : Section} (h : part.IsSound) (depth : Nat) :
    Json.IsReadable (depth + 2) (.table part.entries) := by
  apply Json.IsReadable.table
  · rw [keys_entries]
    exact h.nodup_keys
  · intro entry hentry
    rcases List.mem_map.mp hentry with ⟨setting, hsetting, rfl⟩
    exact (h.hasForm hsetting).isReadable (h.accepts setting hsetting) depth

end Section

end ContainerDesk
