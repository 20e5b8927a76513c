import ContainerDesk.Proofs.Settings.Loading
import ContainerDesk.Proofs.Settings.Observers
import ContainerDesk.Proofs.Settings.Saving
import Mathlib.Data.List.Permutation

/-!
# Opening the settings file

Opening starts from the defaults.  A file all of whose sections are in order is taken,
any other file is left alone and leaves the defaults, and where there is no file, one
with the defaults is written.

Where a settings file can stand at the place, this never fails.  A file that cannot be
written all the same is refused by the system, and then the defaults are taken.
-/

namespace ContainerDesk

namespace Store

variable {store after : Store}

/-- Does the store have the values and the unknown sections of entries, and defaults where they say
nothing? -/
structure Reflects (store : Store) (entries : List (Text × Value)) : Prop where
  get : ∀ name key field, Schema.field? name key = some field →
    store.get name key = .ok ((Schema.valueIn? entries name key).getD field.default)
  extra : store.extra = entries.filter fun entry => Schema.isUnknown entry.1

/-- Does the settings file hold entries, each of which may stand there? -/
structure Offers (store : Store) (entries : List (Text × Value)) : Prop where
  spelled : ∃ octets, store.disk.read store.place = .ok octets ∧
    parse octets = .ok (.table entries)
  allowed : ∀ entry ∈ entries, Schema.Allows entry

structure HasDefaults (store : Store) : Prop where
  live : store.live = Edition.fresh
  extra : store.extra = []

theorem hasDefaults_renew (store : Store) : store.renew.HasDefaults := ⟨rfl, rfl⟩

/-!
# What a store reflects
-/

theorem HasDefaults.reflects (h : store.HasDefaults) : store.Reflects [] where
  get := by
    intro name key field hfield
    apply get_eq_ok_iff.mpr
    rw [h.live, Edition.value_fresh, hfield]
    rfl
  extra := h.extra

theorem Reflects.congr {entries : List (Text × Value)} (h : store.Reflects entries)
    (hlive : after.live = store.live) (hextra : after.extra = store.extra) :
    after.Reflects entries where
  get := by
    intro name key field hfield
    rw [← h.get name key field hfield]
    unfold Store.get find
    rw [hlive]
  extra := hextra.trans h.extra

theorem reflects_of_ofEntries {octets : List Octet} {entries : List (Text × Value)}
    (hparse : parse octets = .ok (.table entries)) {notes : Journal}
    (h : Edition.ofEntries entries = (.ok (store.live, store.extra), notes)) :
    store.Reflects entries := by
  cases isReadable_of_parse hparse with
  | table hnames hvalues =>
      have hkeys : ∀ entry ∈ entries, ∀ settings, entry.2 = .table settings →
          (settings.map (·.1)).Nodup := by
        intro entry hentry settings hsettings
        have hreadable := hvalues entry hentry
        rw [hsettings] at hreadable
        cases hreadable with
        | table hkeys _ => exact hkeys
      constructor
      · intro name key field hfield
        apply get_eq_ok_iff.mpr
        rw [Edition.isSound_fresh.value_absorb h hnames hkeys, Edition.value_fresh, hfield]
        rfl
      · exact (Edition.isSound_fresh.absorb h).2

/-!
# Loading from the defaults
-/

theorem occupied_of_read {octets : List Octet}
    (h : store.disk.read store.place = .ok octets) :
    store.disk.occupied store.place = .ok true :=
  Disk.occupied_of_file (Disk.standing_of_read h)

theorem load_of_offers {entries : List (Text × Value)} (h : store.Offers entries) :
    ∃ loaded, load store = (.ok (), loaded) ∧ loaded.Reflects entries := by
  rcases h.spelled with ⟨octets, hread, hparse⟩
  rcases Edition.exists_ofEntries h.allowed with ⟨edition, extra, notes, hedition⟩
  rcases load_of_entries store (occupied_of_read hread) (readEntries_of_file hread hparse)
    hedition with ⟨loaded, hload, hagrees⟩
  refine ⟨loaded, hload, ?_⟩
  apply reflects_of_ofEntries hparse
  rw [hagrees.live, hagrees.extra]
  exact hedition

theorem HasDefaults.reflects_of_load (h : store.HasDefaults)
    (hnone : ¬ ∃ entries, store.Offers entries) : (load store).2.Reflects [] := by
  rcases hload : load store with ⟨result, after⟩
  cases result with
  | error fault =>
      have hspares := spares_of_load hload
      exact h.reflects.congr hspares.live hspares.extra
  | ok done =>
      rcases load_eq_ok hload with ⟨entries, edition, extra, notes, _, hentries, hedition, _⟩ |
        ⟨_, message, hsave⟩
      · -- A load that read a file would have had one whose entries may stand there.
        have hok : (Edition.ofEntries entries).1.isOk = true := by
          rw [hedition]
          rfl
        exact absurd ⟨entries, readEntries_eq_ok hentries, Edition.isOk_ofEntries.mp hok⟩ hnone
      · rcases exists_disk_of_save (store.note .info .registry message) with ⟨disk, hdisk⟩
        rw [hsave] at hdisk
        dsimp only at hdisk
        rw [hdisk]
        exact h.reflects.congr rfl rfl

/-!
# Why a load from the defaults fails
-/

theorem load_of_free (h : store.disk.occupied store.place = .ok false) :
    ∃ message, load store = save (store.note .info .registry message) := by
  unfold load
  rw [h]
  exact ⟨_, rfl⟩

theorem isAboutSettings_of_there (hthere : store.disk.occupied store.place = .ok true)
    (hdepth : ¬ store.IsTooDeep) {fault : Fault} (h : (load store).1 = .error fault) :
    fault.isAboutSettings = true := by
  rcases loadFault_of_load hthere h with hfault | hdeep
  · cases hfault with
    | unusable reason => rfl
    | refusal name value reason => rfl
  · exact absurd hdeep hdepth

theorem HasDefaults.exists_octets (h : store.HasDefaults) :
    ∃ t octets, Json.write store.content = .ok t ∧ Utf8.encode t = .ok octets := by
  have hcontent : store.content = (fresh [] (Disk.empty [])).content := by
    unfold content tables
    rw [h.live, h.extra]
    rfl
  rw [hcontent]
  exact Json.exists_octets_of_isSome (by decide +kernel)

theorem HasDefaults.isAboutSettings_of_hasPath (hdefaults : store.HasDefaults)
    (hsound : store.IsSound) (hpath : store.HasPath)
    (hfree : store.disk.occupied store.place = .ok false) {fault : Fault}
    (h : (load store).1 = .error fault) : fault.isAboutSettings = true := by
  rcases load_of_free hfree with ⟨message, hload⟩
  have hnoted := hsound.note .info .registry message
  have hwritable := (Json.exists_octets_iff hnoted.isReadable_content).mp
    hdefaults.exists_octets
  have hsafe := failsSafely_of_isWritable hnoted ⟨hpath.file, hpath.folder, hpath.length⟩ hwritable
  rw [hload] at h
  rcases (hsafe fault _ (Prod.ext h rfl)).1 with ⟨reason, rfl⟩
  rfl

theorem save_of_folder (hfolder : store.disk.standing store.place.dropLast = .folder) {t : Text}
    {octets : List Octet} (hwrite : Json.write store.content = .ok t)
    (hencode : Utf8.encode t = .ok octets) :
    (save store).1 = (store.disk.write store.place []).1.mapError store.refused := by
  unfold save
  rw [Disk.makeFolders_of_folder hfolder]
  dsimp only
  rw [hwrite]
  dsimp only
  rcases store.disk.write store.place [] with ⟨result, emptied⟩
  cases result with
  | error refusal => rfl
  | ok done =>
      dsimp only
      rw [hencode]
      rfl

theorem HasDefaults.isAboutSettings_of_folder (hdefaults : store.HasDefaults)
    (hfolder : store.disk.standing store.place.dropLast = .folder)
    (htext : Disk.Cause.ofText? store.path = none)
    (hfree : store.disk.occupied store.place = .ok false) {fault : Fault}
    (h : (load store).1 = .error fault) : fault.isAboutSettings = true := by
  rcases load_of_free hfree with ⟨message, hload⟩
  rcases hdefaults.exists_octets with ⟨t, octets, hwrite, hencode⟩
  have hfolder' : (store.note .info .registry message).disk.standing
      (store.note .info .registry message).place.dropLast = .folder := hfolder
  rw [hload, save_of_folder hfolder' hwrite hencode] at h
  change (store.disk.write store.place []).1.mapError store.refused = .error fault at h
  rcases hwritten : store.disk.write store.place [] with ⟨result, emptied⟩
  rw [hwritten] at h
  cases result with
  | error refusal =>
      rw [← Except.error.inj h, refused_of_isBySystem (Disk.write_eq_error htext hwritten).1]
      rfl
  | ok done => cases h

/-- Can a settings file stand at the place of the store?  Either the way to it can be made, or its
folder is there and the system takes its path. -/
inductive IsPlaced (store : Store) : Prop where
  | onWay (hpath : store.HasPath)
  | inFolder (hfolder : store.disk.standing store.place.dropLast = .folder)
      (htext : Disk.Cause.ofText? store.path = none)

/-- A load from the defaults fails with nothing but a fault about the settings. -/
theorem isAboutSettings_of_renew (hsound : store.IsSound) {there : Bool}
    (hthere : store.disk.occupied store.place = .ok there) (hdepth : ¬ store.IsTooDeep)
    (hplaced : there = true ∨ store.IsPlaced) {fault : Fault}
    (h : (load store.renew).1 = .error fault) : fault.isAboutSettings = true := by
  have hrenewed : store.renew.disk.occupied store.renew.place = .ok there := hthere
  cases there with
  | true => exact isAboutSettings_of_there hrenewed hdepth h
  | false =>
      cases hplaced.resolve_left Bool.false_ne_true with
      | onWay hpath =>
          exact (hasDefaults_renew _).isAboutSettings_of_hasPath hsound.renew
            ⟨hpath.file, hpath.folder, hpath.length⟩ hrenewed h
      | inFolder hfolder htext =>
          exact (hasDefaults_renew _).isAboutSettings_of_folder hfolder htext hrenewed h

/-!
# Opening
-/

/-- If a load from the defaults ends well or with a fault about the settings, opening ends well, and
but for the journal and the one who keeps it, with what the load ended with. -/
theorem exists_opened (h : ∀ fault, (load store.renew).1 = .error fault →
      fault.isAboutSettings = true) :
    ∃ opened, openFile store = (.ok (), opened) ∧ opened.observers = [.changeJournal] ∧
      opened.disk = (load store.renew).2.disk ∧ opened.live = (load store.renew).2.live ∧
      opened.extra = (load store.renew).2.extra := by
  have hobservers : (load store.renew).2.observers = [] := observers_load store.renew
  have hregister : ∀ loaded : Store, loaded.observers = [] →
      loaded.register .changeJournal = { loaded with observers := [.changeJournal] } := by
    intro loaded hloaded
    unfold register
    rw [hloaded]
    rfl
  unfold openFile
  rcases hload : load store.renew with ⟨result, loaded⟩
  rw [hload] at h hobservers
  cases result with
  | ok done =>
      dsimp only
      rw [hregister loaded hobservers]
      exact ⟨_, rfl, rfl, rfl, rfl, rfl⟩
  | error fault =>
      dsimp only
      rw [if_pos (h fault rfl), hregister (loaded.note _ _ _) hobservers]
      exact ⟨_, rfl, rfl, rfl, rfl, rfl⟩

end Store

namespace Scene

variable {σ : Type}

/-- Opening ends well whatever is at the place of the settings file, unless it is too deep for the
reader, and it leaves what is there as it was.  A file all of whose sections are in order is taken
as it is, and otherwise nothing of it.  From then on changes are noted, and nobody else watches. -/
theorem openFile_endsWell {scene : Scene σ} (h : scene.Reachable) {there : Bool}
    (hthere : scene.store.disk.occupied scene.store.place = .ok there)
    (hdepth : ¬ scene.store.IsTooDeep) (hplaced : there = true ∨ scene.store.IsPlaced) :
    ∃ opened, Store.openFile scene.store = (.ok (), opened) ∧
      opened.observers = [.changeJournal] ∧
      (there = true → opened.disk = scene.store.disk) ∧
      (∀ entries, scene.store.Offers entries → opened.Reflects entries) ∧
      ((¬ ∃ entries, scene.store.Offers entries) → opened.Reflects []) := by
  rcases Store.exists_opened fun _ =>
      Store.isAboutSettings_of_renew h.isSound hthere hdepth hplaced with
    ⟨opened, hopen, hobservers, hdisk, hlive, hextra⟩
  refine ⟨opened, hopen, hobservers, ?_, ?_, ?_⟩
  · intro hoccupied
    rw [hdisk]
    exact Store.disk_of_load (hoccupied ▸ hthere)
  · intro entries hoffers
    have hrenewed : scene.store.renew.Offers entries := ⟨hoffers.spelled, hoffers.allowed⟩
    rcases Store.load_of_offers hrenewed with ⟨loaded, hload, hreflects⟩
    rw [hload] at hlive hextra
    exact hreflects.congr hlive hextra
  · intro hnone
    have hrenewed : ¬ ∃ entries, scene.store.renew.Offers entries := by
      intro hoffers
      rcases hoffers with ⟨entries, hspelled, hallowed⟩
      exact hnone ⟨entries, hspelled, hallowed⟩
    exact ((Store.hasDefaults_renew _).reflects_of_load hrenewed).congr hlive hextra

def partialFile : Text :=
  Text.of "\x7b\"app\": \x7b\"window_x\": 7, \"theme\": 1\x7d, \"bar\": null\x7d"

/-- The value of the file is taken beside the defaults, and the file stays as it is. -/
theorem openFile_endsWell_partial :
    ((onFile partialFile).Reachable ∧
      (onFile partialFile).store.disk.occupied (onFile partialFile).store.place = .ok true ∧
      ¬ (onFile partialFile).store.IsTooDeep) ∧
    ∃ opened, Store.openFile (onFile partialFile).store = (.ok (), opened) ∧
      opened.observers = [.changeJournal] ∧ opened.disk = (onFile partialFile).store.disk ∧
      opened.get (Text.of "app") (Text.of "window_x") = .ok (.int 7) ∧
      opened.get (Text.of "app") (Text.of "window_width") = .ok (.int 1280) ∧
      opened.extra = [(Text.of "bar", .null)] := by
  have hreachable : (onFile partialFile).Reachable := reachable_onFile partialFile
  have hthere : (onFile partialFile).store.disk.occupied (onFile partialFile).store.place =
      .ok true := rfl
  have hspelled : Store.parse (Utf8.encodeAll partialFile) =
      .ok (.table [(Text.of "app", .table [(Text.of "window_x", .int 7),
        (Text.of "theme", .int 1)]), (Text.of "bar", .null)]) := by
    cbv
  have hdepth : ¬ (onFile partialFile).store.IsTooDeep := by
    intro hdeep
    rcases hdeep with ⟨octets, place, hread, hfails⟩
    rw [← Except.ok.inj hread, hspelled] at hfails
    cases hfails
  have hoffers : (onFile partialFile).store.Offers _ :=
    ⟨⟨_, rfl, hspelled⟩, Edition.isOk_ofEntries.mp (by decide +kernel)⟩
  rcases openFile_endsWell hreachable hthere hdepth (.inl rfl) with
    ⟨opened, hopen, hobservers, hdisk, htaken, _⟩
  have hreflects := htaken _ hoffers
  exact ⟨⟨hreachable, hthere, hdepth⟩, opened, hopen, hobservers, hdisk rfl,
    hreflects.get (Text.of "app") (Text.of "window_x") _ rfl,
    hreflects.get (Text.of "app") (Text.of "window_width") _ rfl, hreflects.extra⟩

end Scene

end ContainerDesk
