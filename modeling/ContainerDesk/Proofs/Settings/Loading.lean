import ContainerDesk.Proofs.Settings.Offending

/-!
# Loading as a whole or not at all

A load that fails leaves the settings as they were.  Whatever stands at the place of the
settings file, it is not written to, and it is loaded, or cannot be used, or has a value
that is refused; only lists and tables beyond the reader's depth end a load in another way.

The reason is that all values of a file can be shown, so that what is refused is always
named.
-/

namespace ContainerDesk

/-!
# Reading the settings file
-/

namespace Store

theorem canShow_of_parse {octets : List Octet} {value : Value} (h : parse octets = .ok value) :
    value.CanShow :=
  hereditary_of_parse Json.isHereditary_canShow h

theorem parse_eq_error {octets : List Octet} {fault : Fault} (h : parse octets = .error fault) :
    (∃ malformed, fault = .undecodable malformed) ∨ (∃ reason, fault = .badValue reason) ∨
      ∃ place, fault = .nestingTooDeep place := by
  unfold parse at h
  split at h
  · cases h
    exact .inl ⟨_, rfl⟩
  · dsimp only at h
    split at h
    · rename_i misreading _
      cases h
      cases misreading with
      | «at» defect position => exact .inr (.inl ⟨_, rfl⟩)
      | tooManyDigits count => exact .inr (.inl ⟨_, rfl⟩)
      | tooDeep isTable => exact .inr (.inr ⟨_, rfl⟩)
    · cases h

variable {store : Store} {fault : Fault}

/-- Does the settings file have lists and tables in each other beyond the reader's depth? -/
def IsTooDeep (store : Store) : Prop :=
  ∃ octets place, store.disk.read store.place = .ok octets ∧
    parse octets = .error (.nestingTooDeep place)

theorem readEntries_eq_error (h : store.readEntries = .error fault) :
    (∃ reason, fault = .unusableFile store.path reason) ∨ store.IsTooDeep := by
  unfold readEntries at h
  split at h
  · cases h
    exact .inl ⟨_, rfl⟩
  · rename_i octets hoctets
    split at h
    · cases h
      exact .inl ⟨_, rfl⟩
    · cases h
      exact .inl ⟨_, rfl⟩
    · rename_i hundecodable hbad hparse
      rcases parse_eq_error hparse with ⟨malformed, rfl⟩ | ⟨reason, rfl⟩ | ⟨place, rfl⟩
      · exact absurd rfl (hundecodable _)
      · exact absurd rfl (hbad _)
      · exact .inr ⟨octets, place, hoctets, hparse⟩
    · cases h
    · cases h
      exact .inl ⟨_, rfl⟩

/-!
# Loading
-/

inductive LoadFault (store : Store) : Fault → Prop where
  | unusable (reason : Text) : LoadFault store (.unusableFile store.path reason)
  | refusal (name : Text) (value : Value) (reason : Text) :
      LoadFault store (.invalidSetting name value reason)

/-- Does the second store have the settings of the first, so that also everybody who holds a section
or takes one sees what they saw before? -/
structure Spares (store after : Store) : Prop where
  live : after.live = store.live
  retired : after.retired = store.retired
  extra : after.extra = store.extra
  observers : after.observers = store.observers
  hold : after.hold = store.hold
  held : after.held = store.held

theorem spares_of_eq (store : Store) (disk : Disk) (journal : Journal) :
    store.Spares { store with disk, journal } :=
  ⟨rfl, rfl, rfl, rfl, rfl, rfl⟩

def LoadsFile (store : Store) : Prop :=
  store.disk.occupied store.place = .ok true ∧ (load store).1 = .ok ()

theorem load_of_loadsFile (h : store.LoadsFile) :
    ∃ edition extra journal, (load store).2 = { store.adopt edition extra with journal } := by
  rcases h with ⟨hthere, hload⟩
  unfold load at hload ⊢
  rw [hthere] at hload ⊢
  dsimp only at hload ⊢
  split at hload
  · cases hload
  · split at hload
    · cases hload
    · exact ⟨_, _, _, rfl⟩

theorem load_of_not_loadsFile (h : ¬ store.LoadsFile) :
    ∃ disk journal, (load store).2 = { store with disk, journal } := by
  unfold load
  split
  · exact ⟨_, _, rfl⟩
  · rename_i hthere
    split
    · exact ⟨_, _, rfl⟩
    · rename_i entries hentries
      split
      · exact ⟨_, _, rfl⟩
      · rename_i hedition
        refine absurd ⟨hthere, ?_⟩ h
        unfold load
        rw [hthere]
        dsimp only
        rw [hentries]
        dsimp only
        rw [hedition]
  · rcases exists_disk_of_save _ with ⟨disk, hdisk⟩
    exact ⟨disk, _, hdisk⟩

theorem spares_of_load {after : Store} (h : load store = (.error fault, after)) :
    store.Spares after := by
  have hfails : ¬ store.LoadsFile := by
    intro hloads
    have hwell := hloads.2
    rw [h] at hwell
    cases hwell
  rcases load_of_not_loadsFile hfails with ⟨disk, journal, hafter⟩
  rw [h] at hafter
  rw [show after = _ from hafter]
  exact spares_of_eq store disk journal

theorem disk_of_load (h : store.disk.occupied store.place = .ok true) :
    (load store).2.disk = store.disk := by
  unfold load
  rw [h]
  dsimp only
  split
  · rfl
  · split
    · rfl
    · rfl

theorem loadFault_of_load (h : store.disk.occupied store.place = .ok true)
    (hload : (load store).1 = .error fault) : store.LoadFault fault ∨ store.IsTooDeep := by
  unfold load at hload
  rw [h] at hload
  dsimp only at hload
  split at hload
  · rename_i hentries
    cases hload
    rcases readEntries_eq_error hentries with ⟨reason, rfl⟩ | hdeep
    · exact .inl (.unusable reason)
    · exact .inr hdeep
  · rename_i entries hentries
    rcases readEntries_eq_ok hentries with ⟨octets, _, hparse⟩
    have hshown := Value.canShow_table.mp (canShow_of_parse hparse)
    split at hload
    · rename_i hedition
      cases hload
      rcases Edition.exists_offends_of_ofEntries hshown hedition with ⟨entry, _, hoffends⟩
      cases hoffends with
      | noTable => exact .inl (.refusal _ _ _)
      | setting => exact .inl (.refusal _ _ _)
    · cases hload

/-- A load that fails leaves all settings, sections and observers as they were.  What stands at the
place of the settings file is not touched; it is loaded, or turned down with a fault about the
settings, unless it is too deep for the reader. -/
theorem load_all_or_nothing (store : Store) :
    (∀ fault after, load store = (.error fault, after) → store.Spares after) ∧
    (store.disk.occupied store.place = .ok true →
      (load store).2.disk = store.disk ∧
      (¬ store.IsTooDeep → ∀ fault, (load store).1 = .error fault → store.LoadFault fault)) := by
  refine ⟨fun fault after => spares_of_load, fun hoccupied => ⟨disk_of_load hoccupied, ?_⟩⟩
  intro hdepth fault hload
  rcases loadFault_of_load hoccupied hload with hfault | hdeep
  · exact hfault
  · exact absurd hdeep hdepth

def spoiledFile : List Octet :=
  let content := Text.of "\x7b\"app\": \x7b\"window_x\": 7\x7d, \"logging\": 5\x7d"
  (Utf8.encode content).toOption.getD []

def spoiled : Store :=
  let place := Disk.placeOf (Text.of "/tmp/config.json")
  fresh place ((Disk.empty (Text.of "/home")).put place (.file spoiledFile))

/-- The spoiled file is turned down, and the value that would do is not taken. -/
theorem load_all_or_nothing_spoiled :
    spoiled.disk.occupied spoiled.place = .ok true ∧ ¬ spoiled.IsTooDeep ∧
    ∃ fault after, load spoiled = (.error fault, after) ∧ spoiled.Spares after ∧
      after.disk = spoiled.disk ∧ spoiled.LoadFault fault := by
  have hoccupied : spoiled.disk.occupied spoiled.place = .ok true := rfl
  have hdepth : ¬ spoiled.IsTooDeep := by
    rintro ⟨octets, place, hread, hparse⟩
    have hoctets : spoiledFile = octets := Except.ok.inj hread
    have hok : (parse spoiledFile).isOk = true := by decide +kernel
    rw [hoctets, hparse] at hok
    cases hok
  have hfails : (load spoiled).1.isOk = false := by decide +kernel
  rcases load_all_or_nothing spoiled with ⟨hspares, hpresent⟩
  rcases hpresent hoccupied with ⟨hdisk, hfault⟩
  rcases hload : load spoiled with ⟨result, after⟩
  rw [hload] at hfails hdisk hfault
  cases result with
  | error fault =>
      exact ⟨hoccupied, hdepth, fault, after, rfl, hspares fault after hload, hdisk,
        hfault hdepth fault rfl⟩
  | ok done => cases hfails

end Store

end ContainerDesk
