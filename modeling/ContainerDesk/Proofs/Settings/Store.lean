import ContainerDesk.Proofs.Settings.Edition
import ContainerDesk.Proofs.Storage.Place

/-!
# Sound stores

A store is sound when all of its editions are, the retired ones included, and when its
unknown sections can be written to a file and read back: their names are apart from
each other and from all names that have a meaning, and their values are readable.

All that callers can do to a store keeps it sound.
-/

namespace ContainerDesk

namespace Store

/-- Can a file hold the entries as its unknown sections? -/
structure IsExtra (entries : List (Text × Value)) : Prop where
  unknown : ∀ entry ∈ entries, Schema.isUnknown entry.1 = true
  keys : (entries.map (·.1)).Nodup
  /-- The file itself is one table around them. -/
  readable : ∀ entry ∈ entries, Json.IsReadable (Json.depthLimit - 1) entry.2

theorem isExtra_nil : IsExtra [] where
  unknown := fun _ hentry => absurd hentry List.not_mem_nil
  keys := List.nodup_nil
  readable := fun _ hentry => absurd hentry List.not_mem_nil

/-- Does the store hold sound editions and unknown sections that a file can hold? -/
structure IsSound (store : Store) : Prop where
  live : store.live.IsSound
  retired : ∀ edition ∈ store.retired, edition.IsSound
  extra : IsExtra store.extra
  place : ∃ way : Place.Way, store.place = way.place

theorem isSound_fresh (way : Place.Way) (disk : Disk) : (fresh way.place disk).IsSound where
  live := Edition.isSound_fresh
  retired := fun _ hedition => absurd hedition List.not_mem_nil
  extra := isExtra_nil
  place := ⟨way, rfl⟩

namespace IsSound

variable {store : Store}

theorem congr (h : store.IsSound) (disk : Disk) (journal : Journal) (observers : List Observer) :
    { store with disk, journal, observers }.IsSound :=
  ⟨h.live, h.retired, h.extra, h.place⟩

theorem onDisk (h : store.IsSound) (disk : Disk) : { store with disk }.IsSound :=
  h.congr disk store.journal store.observers

theorem noteAll (h : store.IsSound) (entries : Journal) : (store.noteAll entries).IsSound :=
  h.congr store.disk _ store.observers

theorem note (h : store.IsSound) (level : Level) (speaker : Speaker) (message : Text) :
    (store.note level speaker message).IsSound :=
  h.noteAll _

theorem register (h : store.IsSound) (observer : Observer) :
    (store.register observer).IsSound := by
  unfold Store.register
  split
  · exact h
  · exact h.congr store.disk store.journal _

theorem unregister (h : store.IsSound) (observer : Observer) :
    (store.unregister observer).IsSound :=
  h.congr store.disk store.journal _

theorem replace (h : store.IsSound) {part : Section} (hpart : part.IsSound) :
    (store.replace part).IsSound :=
  ⟨h.live.replace hpart, h.retired, h.extra, h.place⟩

theorem replaceHeld (h : store.IsSound) (handle : Handle) {part : Section}
    (hpart : part.IsSound) : (store.replaceHeld handle part).IsSound := by
  unfold Store.replaceHeld
  split
  · exact h.replace hpart
  · refine ⟨h.live, ?_, h.extra, h.place⟩
    intro edition hedition
    rcases List.mem_iff_getElem?.mp hedition with ⟨number, hnumber⟩
    dsimp only at hnumber
    rw [List.getElem?_modify] at hnumber
    cases hold : store.retired[number]? with
    | none =>
        rw [hold] at hnumber
        cases hnumber
    | some old =>
        have hsound := h.retired old (List.mem_of_getElem? hold)
        rw [hold] at hnumber
        rw [← Option.some.inj hnumber]
        split
        · exact hsound.replace hpart
        · exact hsound

theorem held (h : store.IsSound) {handle : Handle} {part : Section}
    (hheld : store.held handle = .ok part) : part.IsSound := by
  unfold Store.held at hheld
  cases hpart : (store.edition? handle.edition).bind (·.part? handle.sectionName) with
  | none =>
      rw [hpart] at hheld
      cases hheld
  | some found =>
      rw [hpart] at hheld
      cases hheld
      rcases Option.bind_eq_some_iff.mp hpart with ⟨edition, hedition, hfound⟩
      have hsound : edition.IsSound := by
        rcases List.mem_append.mp (List.mem_of_getElem? hedition) with hmem | hmem
        · exact h.retired edition hmem
        · rw [List.mem_singleton.mp hmem]
          exact h.live
      exact hsound.part (Edition.part_eq_some hfound).1

theorem find (h : store.IsSound) {name : Text} {part : Section}
    (hfind : store.find name = .ok part) : part.IsSound := by
  unfold Store.find at hfind
  cases hpart : store.live.part? name with
  | none =>
      rw [hpart] at hfind
      cases hfind
  | some found =>
      rw [hpart] at hfind
      cases hfind
      exact h.live.part (Edition.part_eq_some hpart).1

/-!
# Values
-/

theorem get_of_field (h : store.IsSound) {name key : Text} {field : Field}
    (hfield : Schema.field? name key = some field) :
    ∃ value, store.get name key = .ok value ∧ field.Accepts value := by
  unfold Store.get Store.find
  cases hpart : store.live.part? name with
  | none =>
      rcases Option.bind_eq_some_iff.mp hfield with ⟨_, hschema, _⟩
      rw [lookup_of_not_mem (h.live.names ▸ Edition.part_eq_none.mp hpart)] at hschema
      cases hschema
  | some part =>
      rcases Edition.part_eq_some hpart with ⟨hmem, rfl⟩
      exact (h.live.part hmem).get_of_field hfield

theorem exists_int (h : store.IsSound) {name key : Text}
    (hfield : ∃ default low high,
      Schema.field? name key = some (Schema.rangeField default low high)) :
    ∃ n, store.get name key = .ok (.int n) := by
  rcases hfield with ⟨_, _, _, hfield⟩
  rcases h.get_of_field hfield with ⟨value, hget, haccepts⟩
  rcases Field.accepts_range.mp haccepts with ⟨n, rfl, _⟩
  exact ⟨n, hget⟩

theorem exists_bool (h : store.IsSound) {name key : Text}
    (hfield : ∃ default, Schema.field? name key = some (Schema.flagField default)) :
    ∃ b, store.get name key = .ok (.bool b) := by
  rcases hfield with ⟨_, hfield⟩
  rcases h.get_of_field hfield with ⟨value, hget, haccepts⟩
  rcases Field.accepts_flag.mp haccepts with ⟨b, rfl⟩
  exact ⟨b, hget⟩

theorem onHeld (h : store.IsSound) {α : Type} (handle : Handle)
    {work : Section → Except Fault (α × Section)}
    (hwork : ∀ part result after, part.IsSound → work part = .ok (result, after) →
      after.IsSound) : (Store.onHeld handle work store).2.IsSound := by
  unfold Store.onHeld
  split
  · exact h
  · rename_i part hpart
    split
    · exact h
    · rename_i result after hresult
      exact h.replaceHeld handle (hwork part result after (h.held hpart) hresult)

theorem assignHeld (h : store.IsSound) (handle : Handle) (key : Text) (value : Value) :
    (Store.assignHeld handle key value store).2.IsSound :=
  h.onHeld handle fun _ _ _ hpart hassign => hpart.assign hassign

theorem appendHeld (h : store.IsSound) (handle : Handle) (key : Text) (n : Int) :
    (Store.appendHeld handle key (.int n) store).2.IsSound :=
  h.onHeld handle fun _ _ _ hpart happend => hpart.append happend

theorem resetHeld (h : store.IsSound) (handle : Handle) :
    (Store.resetHeld handle store).2.IsSound := by
  apply h.onHeld handle
  intro part result after hpart hreset
  rw [← (Prod.mk.inj (Except.ok.inj hreset)).2]
  exact hpart.reset

theorem updateHeld (h : store.IsSound) (handle : Handle) (entries : List (Text × Value)) :
    (Store.updateHeld handle entries store).2.IsSound := by
  unfold Store.updateHeld
  split
  · exact h
  · rename_i part hpart
    split
    · exact h.noteAll _
    · rename_i after notes hupdate
      exact (h.replaceHeld handle ((h.held hpart).update hupdate)).noteAll notes

theorem assign (h : store.IsSound) {name key : Text} {value old : Value} {after : Store}
    (hassign : store.assign name key value = .ok (old, after)) : after.IsSound := by
  unfold Store.assign at hassign
  split at hassign
  · cases hassign
  · rename_i part hfind
    split at hassign
    · cases hassign
    · rename_i hpart
      cases hassign
      exact h.replace ((h.find hfind).assign hpart)

end IsSound

/-!
# The settings file
-/

theorem hereditary_of_parse {P : Nat → Value → Prop} (hereditary : Json.IsHereditary P)
    {octets : List Octet} {value : Value} (h : parse octets = .ok value) :
    P Json.depthLimit value := by
  unfold parse at h
  split at h
  · cases h
  · dsimp only at h
    split at h
    · cases h
    · rename_i hread
      cases h
      exact hereditary.of_read hread

theorem isReadable_of_parse {octets : List Octet} {value : Value} (h : parse octets = .ok value) :
    Json.IsReadable Json.depthLimit value :=
  hereditary_of_parse Json.isHereditary_isReadable h

theorem readEntries_eq_ok {store : Store} {entries : List (Text × Value)}
    (h : store.readEntries = .ok entries) :
    ∃ octets, store.disk.read store.place = .ok octets ∧ parse octets = .ok (.table entries) := by
  unfold readEntries at h
  split at h
  · cases h
  · rename_i octets hoctets
    split at h
    · cases h
    · cases h
    · cases h
    · rename_i hparse
      cases h
      exact ⟨octets, hoctets, hparse⟩
    · cases h

theorem isExtra_of_parse {octets : List Octet} {entries : List (Text × Value)}
    (h : parse octets = .ok (.table entries)) :
    IsExtra (entries.filter fun entry => Schema.isUnknown entry.1) := by
  cases isReadable_of_parse h with
  | table hkeys hvalues =>
      exact {
        unknown := fun entry hentry => (List.mem_filter.mp hentry).2
        keys := ((List.filter_sublist).map _).nodup hkeys
        readable := fun entry hentry => hvalues entry (List.mem_filter.mp hentry).1
      }

theorem isSound_of_parse {octets : List Octet} {entries : List (Text × Value)}
    (hparse : parse octets = .ok (.table entries)) {edition : Edition}
    {extra : List (Text × Value)} {notes : Journal}
    (h : Edition.ofEntries entries = (.ok (edition, extra), notes)) :
    edition.IsSound ∧ IsExtra extra := by
  rcases Edition.isSound_fresh.absorb h with ⟨hedition, hextra⟩
  rw [hextra, List.nil_append]
  exact ⟨hedition, isExtra_of_parse hparse⟩

/-- Saving changes nothing but the disk. -/
theorem exists_disk_of_save (store : Store) : ∃ disk, (save store).2 = { store with disk } := by
  unfold save
  split
  · exact ⟨_, rfl⟩
  · dsimp only
    split
    · exact ⟨_, rfl⟩
    · split
      · exact ⟨_, rfl⟩
      · split
        · exact ⟨_, rfl⟩
        · exact ⟨_, rfl⟩

namespace IsSound

variable {store : Store}

theorem adopt (h : store.IsSound) {edition : Edition} (hedition : edition.IsSound)
    {extra : List (Text × Value)} (hextra : IsExtra extra) :
    (store.adopt edition extra).IsSound where
  live := hedition
  retired := by
    intro old hold
    rcases List.mem_append.mp hold with hold | hold
    · exact h.retired old hold
    · rw [List.mem_singleton.mp hold]
      exact h.live
  extra := hextra
  place := h.place

theorem save (h : store.IsSound) : (Store.save store).2.IsSound := by
  rcases exists_disk_of_save store with ⟨disk, hdisk⟩
  rw [hdisk]
  exact h.onDisk disk

theorem load (h : store.IsSound) : (Store.load store).2.IsSound := by
  unfold Store.load
  split
  · exact h
  · split
    · exact h
    · rename_i entries hentries
      rcases readEntries_eq_ok hentries with ⟨octets, _, hparse⟩
      split
      · exact h.noteAll _
      · rename_i hedition
        rcases isSound_of_parse hparse hedition with ⟨hsound, hextra⟩
        exact ((h.adopt hsound hextra).noteAll _).note _ _ _
  · exact (h.note _ _ _).save

theorem renew (h : store.IsSound) : store.renew.IsSound :=
  (h.adopt Edition.isSound_fresh isExtra_nil).congr _ _ _

theorem openFile (h : store.IsSound) : (Store.openFile store).2.IsSound := by
  have hload := h.renew.load
  unfold Store.openFile
  split
  · rename_i heq
    rw [heq] at hload
    exact hload.register _
  · rename_i fault after heq
    rw [heq] at hload
    split
    · exact (hload.note _ _ _).register _
    · exact h.congr _ _ _

end IsSound

end Store

end ContainerDesk
